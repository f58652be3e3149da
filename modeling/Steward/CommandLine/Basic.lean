/-
This file holds the commands of the program: to run, to plan and to check.
-/

import Steward.CommandLine.Arguments

namespace Steward

/-- What the program is asked to do. -/
inductive Command where
  | run (config manifest : String)
  | plan (config manifest : String) (asJson : Bool)
  | check (config : String)
  deriving DecidableEq, Repr

/-- A command and the filter of the log. -/
structure CommandLine where
  logLevel : String
  command : Command
  deriving DecidableEq, Repr

namespace CommandLine

def logLevelOption : CommandOption :=
  { long := "log-level", kind := .text }

def configOption : CommandOption :=
  { long := "config", short := some 'c', kind := .path }

def manifestOption : CommandOption :=
  { long := "manifest", short := some 'm', kind := .path }

def jsonOption : CommandOption :=
  { long := "json", kind := .flag }

def helpOption : CommandOption :=
  { long := "help", short := some 'h', kind := .help }

def versionOption : CommandOption :=
  { long := "version", short := some 'V', kind := .version }

def programOptions : List CommandOption :=
  [logLevelOption, helpOption, versionOption]

/-- The commands by name, each with the options of its own. -/
def commands : List (String × List CommandOption) :=
  [("run", [configOption, manifestOption]),
    ("plan", [configOption, manifestOption, jsonOption]), ("check", [configOption])]

def helpCommand : String :=
  "help"

def commandNames : List String :=
  commands.map Prod.fst ++ [helpCommand]

def configVariable : String :=
  "SILO_CONFIG"

def defaultConfig : String :=
  "silo.toml"

def defaultLogLevel : String :=
  "info"

/-- The help that the help command is asked for: that of the program, of one of its commands,
or its own. -/
def helpFor : List String → UsageError
  | [] => .helpWanted none true
  | [name] => if name ∈ commandNames then .helpWanted (some name) true else .invalidSubcommand
  | _ => .invalidSubcommand

/-- The command of a name with the options that were given. -/
def assemble (name : String) (values : Table String String) : Except UsageError Command := do
  let config := (values.get? configOption.long).getD defaultConfig
  if name = "check" then return .check config
  match values.get? manifestOption.long with
  | none => throw .missingRequiredArgument
  | some manifest =>
      if name = "run" then return .run config manifest
      else return .plan config manifest (values.contains jsonOption.long)

/-- Reads the words after the name of a command. -/
def readCommand (environment : String → Option String) (name : String) (words : List String) :
    Except UsageError (Command × Option String) := do
  let own := (commands.lookup name).getD []
  let scan ← Scan.readOptions (logLevelOption :: helpOption :: own) words
    { command := some name }
  let scan ← scan.giveFrom configOption (environment configVariable)
  return (← assemble name scan.values, scan.values.get? logLevelOption.long)

/-- Reads a command line; an option of the program may stand before or after the command, and
counts where it stands last. -/
def read (environment : String → Option String) (words : List String) :
    Except UsageError CommandLine := do
  let (scan, command) ← Scan.readUpTo programOptions commandNames words { command := none }
  match command with
  | none => throw (if scan.values.isEmpty then .nothingGiven else .missingSubcommand)
  | some (name, rest) =>
      if name = helpCommand then throw (helpFor rest)
      let (command, logLevel) ← readCommand environment name rest
      let outer := ((← scan.settle).values.get? logLevelOption.long).getD defaultLogLevel
      return ⟨logLevel.getD outer, command⟩

end CommandLine

end Steward
