/-
This file carries commands out on the files and the environment that they are given.
-/

import Steward.CommandLine.Help
import Steward.Config
import Steward.Engine.Report
import Steward.Manifest

namespace Steward

/-- What a command prints, and how it ends. -/
structure Report where
  code : Nat := 0
  lines : List String := []
  /-- What went wrong, in one line. -/
  failure : Option String := none
  deriving DecidableEq, Repr

/-- What becomes of a command line: a report at once, or work until it is interrupted. -/
inductive Response where
  | report (report : Report)
  | serve (config : Config) (records : List Record)

namespace Report

def ofLines (lines : List String) : Report :=
  { lines }

def ofFailure (failure : String) : Report :=
  { code := 1, failure := some failure }

/-- The code of a command line that makes up no command. -/
def usageCode : Nat :=
  2

/-- A command line that makes up no command is reported by its code alone; one that asks for
help or for the version gets it. -/
def ofUsageError (environment : Environment) : CommandLine.UsageError → Report
  | .helpWanted command inFull => .ofLines (CommandLine.help environment command inFull)
  | .versionWanted => .ofLines [CommandLine.versionLine]
  | _ => { code := usageCode }

end Report

namespace Config

/-- The lines that tell of a configuration. -/
def describe (config : Config) : List String :=
  let settings := config.controller
  let marker := fun name => if config.defaultProfile = some name then " (default)" else ""
  ["controller: max_concurrency=" ++ toString settings.maxConcurrency ++ " poll_interval=" ++
      toString settings.pollInterval ++ "s pass_timeout=" ++ toString settings.passTimeout ++ "s",
    "deletion: queue_capacity=" ++ toString config.deletion.queueCapacity ++ " batch_size=" ++
      toString config.deletion.batchSize] ++
    config.profiles.entries.map fun (name, profile) =>
      "profile " ++ name ++ marker name ++ ": " ++ profile.summary

end Config

/-- The files that a command can read, by name. -/
abbrev Files := String → Option String

namespace Command

/-- Reads a configuration file; every failure is told in the same words. -/
def loadConfig (files : Files) (environment : Environment) (file failure : String) :
    Except String Config :=
  match files file with
  | none => .error (failure ++ file)
  | some text => (Config.load environment text).mapError fun _ => failure ++ file

/-- Reads a configuration and a manifest, in this order. -/
def loadInputs (files : Files) (environment : Environment) (config manifest : String) :
    Except String (Config × List Record) := do
  let config ← loadConfig files environment config "Failed to load configuration from "
  let failure := "Failed to load manifest from " ++ manifest
  match files manifest with
  | none => throw failure
  | some text =>
      match Manifest.read text with
      | .ok records => return (config, records)
      | .error _ => throw failure

/-- A world that holds the given records and nothing else. -/
def worldOf (records : List Record) (clock : Supply Timestamp) (secrets : Supply String) : World :=
  let store := records.foldl (fun store record => (store.apply record).2)
    (Store.ofCapacity Store.defaultCapacity)
  { store, clock, secrets }

/-- The lines of a plan for all records of a manifest. -/
def planLines (environment : Environment) (config : Config) (records : List Record)
    (asJson : Bool) : List String :=
  let world := worldOf records (.constant default) (.constant "")
  let entries :=
    (((config.engine environment).planAll (records.map Record.id)).run world).1
  entries.map fun entry => if asJson then entry.toJson.render else entry.line

/-- Carries a command out. -/
def execute (files : Files) (environment : Environment) : Command → Response
  | .check file =>
      match loadConfig files environment file "Invalid configuration in " with
      | .ok config => .report (.ofLines config.describe)
      | .error failure => .report (.ofFailure failure)
  | .plan config manifest asJson =>
      match loadInputs files environment config manifest with
      | .ok (config, records) =>
          .report (.ofLines (planLines environment config records asJson))
      | .error failure => .report (.ofFailure failure)
  | .run config manifest =>
      match loadInputs files environment config manifest with
      | .ok (config, records) => .serve config records
      | .error failure => .report (.ofFailure failure)

end Command

namespace CommandLine

/-- The files that a command line names: the configuration first, then the manifest. -/
def fileNames (environment : Environment) (words : List String) : List String :=
  match read environment words with
  | .ok line =>
      match line.command with
      | .run config manifest | .plan config manifest _ => [config, manifest]
      | .check config => [config]
  | .error _ => []

/-- The variables that hold the secrets of a command line's configuration. -/
def secretVariables (files : Files) (environment : Environment) (words : List String) :
    List String :=
  (fileNames environment words).take 1 |>.flatMap fun file =>
    match (files file).map Config.read with
    | some (.ok config) => config.secretVariables
    | _ => []

end CommandLine

/-- Carries a command line out. -/
def CommandLine.respond (files : Files) (environment : Environment) (words : List String) :
    Response :=
  match CommandLine.read environment words with
  | .ok line => line.command.execute files environment
  | .error error => .report (.ofUsageError environment error)

end Steward
