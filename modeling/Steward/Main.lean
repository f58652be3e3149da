/-
This file runs the program: it looks up the variables and the files that a command line names,
prints what comes of it, and keeps the records of a manifest in step until it is interrupted.
-/

import Std.Time.DateTime
import Steward.CommandLine.Execute
import Steward.Controller.Basic

namespace Steward.Main

/-- Looks the given variables up. -/
def readVariables (names : List String) : IO Environment := do
  let found ← names.filterMapM fun name => do
    return (← IO.getEnv name).map fun value => (name, value)
  return fun name => found.lookup name

/-- Reads the given files, of which one that cannot be read counts as missing. -/
def readFiles (names : List String) : IO Files := do
  let found ← names.filterMapM fun (name : String) => do
    try
      return some (name, ← IO.FS.readFile name)
    catch _ => return none
  return fun name => found.lookup name

/-- The time of day at Greenwich. -/
def currentTime : IO Timestamp := do
  let moment := Std.Time.PlainDateTime.ofWallTime ((← Std.Time.Timestamp.now).toWallTime .zero)
  return {
    year := moment.date.year.toInt
    month := moment.date.month.toNat
    day := moment.date.day.toNat
    hour := moment.time.hour.toNat
    minute := moment.time.minute.toNat
    second := moment.time.second.toNat
    nanosecond := moment.time.nanosecond.toNat }

/-- The milliseconds between two looks at the queue. -/
def tick : Nat :=
  1000

/-- Lets the controller work, again and again. -/
partial def keepRunning (engine : Engine) (controller : Controller) (world : World) : IO Unit := do
  let now ← currentTime
  let (controller, world) := controller.advance engine tick { world with clock := .constant now }
  IO.sleep tick.toUInt32
  keepRunning engine controller world

/-- Keeps the records of a manifest in step. -/
def serve (environment : Environment) (config : Config) (records : List Record) : IO Unit := do
  let seed ← IO.rand 0 0x3FFFFFFFFFFFFFFF
  let world := Command.worldOf records (.constant (← currentTime)) (Secret.supply seed)
  let controller := Controller.start world.store (1000 * config.controller.pollInterval)
  keepRunning (config.engine environment) controller world

/-- What is said of arguments that make up no command. -/
def usageHint : String :=
  "error: the arguments make up no command; for more information, try '--help'."

/-- Prints a report. -/
def print (report : Report) : IO Unit := do
  report.lines.forM fun line => IO.println line
  report.failure.forM fun failure => IO.eprintln ("Error: " ++ failure)
  if report.code = Report.usageCode then IO.eprintln usageHint

end Steward.Main

open Steward in
def main (words : List String) : IO UInt32 := do
  let known ← Main.readVariables (CommandLine.configVariable :: Config.variableNames)
  let files ← Main.readFiles (CommandLine.fileNames known words)
  let secrets := CommandLine.secretVariables files known words
  let environment ← Main.readVariables
    (CommandLine.configVariable :: Config.variableNames ++ secrets)
  match CommandLine.respond files environment words with
  | .report report =>
      Main.print report
      return report.code.toUInt32
  | .serve config records =>
      Main.serve environment config records
      return 0
