/-
This file writes the help of the program and of its commands.
-/

import Steward.CommandLine.Basic

namespace Steward.CommandLine

def programName : String :=
  "silo"

def version : String :=
  "0.1.0"

def versionLine : String :=
  programName ++ " " ++ version

/-- What the commands do, by name. -/
def summaries : List (String × String) :=
  [("run", "Reconcile a manifest until interrupted"),
    ("plan", "Show what a pass would do for each resource, without changing anything"),
    ("check", "Validate configuration and print resolved profiles"),
    ("help", "Print this message or the help of the given subcommand(s)")]

def briefly : String :=
  "Drive buckets, users, policies and service accounts toward declared state"

def atLength : String :=
  "silo reconciles declared object-storage resources against a control plane: it creates what " ++
    "is missing, corrects drift, and removes what it owns when a declaration is deleted."

def logLevelHelp : String :=
  "Log filter (overridden by RUST_LOG)"

/-- A text with blanks behind it up to the given width. -/
def column (width : Nat) (text : String) : String :=
  text ++ String.ofList (List.replicate (width - text.length) ' ')

def commandLines : List String :=
  summaries.map fun (name, summary) => "  " ++ column 5 name ++ "  " ++ summary

def programHelp (inFull : Bool) : List String :=
  let usage := ["", "Usage: silo [OPTIONS] <COMMAND>", "", "Commands:"] ++ commandLines ++
    ["", "Options:"]
  if inFull then
    atLength :: usage ++
      ["      --log-level <LOG_LEVEL>", "          " ++ logLevelHelp, "          ",
        "          [default: info]", "", "  -h, --help",
        "          Print help (see a summary with '-h')", "", "  -V, --version",
        "          Print version"]
  else
    briefly :: usage ++
      ["      --log-level <LOG_LEVEL>  " ++ logLevelHelp ++ " [default: info]",
        "  -h, --help                   Print help (see more with '--help')",
        "  -V, --version                Print version"]

/-- The lines of one option: its names with its value, and what it is for. -/
def optionLines (environment : String → Option String) (name : String) : List (String × String) :=
  let source := (environment configVariable).getD ""
  let config := [("  -c, --config <CONFIG>",
    "Configuration file [env: " ++ configVariable ++ "=" ++ source ++ "] [default: silo.toml]")]
  let logLevel := [("      --log-level <LOG_LEVEL>", logLevelHelp ++ " [default: info]")]
  let manifest := [("  -m, --manifest <MANIFEST>", "Resource manifest (YAML)")]
  let json := [("      --json", "Print one JSON object per resource")]
  let help := [("  -h, --help", "Print help")]
  match name with
  | "run" => config ++ logLevel ++ manifest ++ help
  | "plan" => config ++ logLevel ++ manifest ++ json ++ help
  | _ => config ++ logLevel ++ help

def commandHelp (environment : String → Option String) (name : String) : List String :=
  let options := optionLines environment name
  let width := (options.map fun option => option.1.length).foldl max 0
  let arguments := if name = "check" then "[OPTIONS]" else "[OPTIONS] --manifest <MANIFEST>"
  [(summaries.lookup name).getD "", "", "Usage: silo " ++ name ++ " " ++ arguments, "", "Options:"]
    ++ options.map fun option => column width option.1 ++ "  " ++ option.2

/-- The help of the help command itself. -/
def helpHelp : List String :=
  [(summaries.lookup helpCommand).getD "", "", "Usage: silo help [COMMAND]...", "", "Arguments:",
    "  [COMMAND]...  Print help for the subcommand(s)"]

/-- The help that a command line asks for. -/
def help (environment : String → Option String) (command : Option String) (inFull : Bool) :
    List String :=
  match command with
  | none => programHelp inFull
  | some name => if name = helpCommand then helpHelp else commandHelp environment name

end Steward.CommandLine
