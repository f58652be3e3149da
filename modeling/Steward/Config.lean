/-
This file holds the configuration: how many passes run at once and how often, how objects are
deleted, how policies are set, and the connection profiles. It is read from a file, changed by
the environment, and then checked.
-/

import Steward.Engine.Basic
import Steward.Text.Digits
import Steward.Toml.Reader

namespace Steward

open Json (Value)

/-- Why a configuration is not accepted. -/
inductive ConfigError where
  | unreadable
  | invalid (key reason : String)
  deriving DecidableEq, Repr

def ConfigError.message : ConfigError → String
  | .unreadable => "cannot parse configuration"
  | .invalid key reason => "invalid value for " ++ key ++ ": " ++ reason

/-- How passes are run, with times in seconds. -/
structure ControllerSettings where
  maxConcurrency : Nat := 4
  pollInterval : Nat := 60
  /-- The longest a pass may take; zero stands for any time. -/
  passTimeout : Nat := 120
  deriving DecidableEq, Repr, Inhabited

namespace ControllerSettings

def ofDocument? (document : Document) : Option ControllerSettings := do
  let fields ← document.fields? ["max_concurrency", "poll_interval", "pass_timeout"]
  let standard : ControllerSettings := {}
  return {
    maxConcurrency :=
      ← fields.withDefault "max_concurrency" standard.maxConcurrency Document.unsigned?
    pollInterval :=
      ← fields.withDefault "poll_interval" standard.pollInterval Document.unsigned?
    passTimeout :=
      ← fields.withDefault "pass_timeout" standard.passTimeout Document.unsigned? }

def toJson (settings : ControllerSettings) : Value :=
  .ofMembers
    [("max_concurrency", .ofNat settings.maxConcurrency),
      ("poll_interval", .ofNat settings.pollInterval),
      ("pass_timeout", .ofNat settings.passTimeout)]

end ControllerSettings

namespace DeletionSettings

def ofDocument? (document : Document) : Option DeletionSettings := do
  let fields ← document.fields? ["queue_capacity", "batch_size"]
  return {
    queueCapacity :=
      ← fields.withDefault "queue_capacity" standard.queueCapacity Document.unsigned?
    batchSize := ← fields.withDefault "batch_size" standard.batchSize Document.unsigned? }

def toJson (settings : DeletionSettings) : Value :=
  .ofMembers
    [("queue_capacity", .ofNat settings.queueCapacity),
      ("batch_size", .ofNat settings.batchSize)]

end DeletionSettings

namespace PolicyBinding

/-- A binding by its word, or as a table or list without content under its word. -/
def ofDocument? (document : Document) : Option PolicyBinding := do
  let (word, content) ← document.variant? (choices.map Prod.fst)
  match content with
  | none | some (.table []) | some (.list []) => choices.lookup word
  | some _ => none

/-- The section that holds nothing but the binding. -/
def ofSection? (document : Document) : Option PolicyBinding := do
  let fields ← document.fields? ["policy_binding"]
  fields.withDefault "policy_binding" .replace ofDocument?

end PolicyBinding

structure Config where
  controller : ControllerSettings := {}
  deletion : DeletionSettings := .standard
  binding : PolicyBinding := .replace
  /-- The profile of records that name none. -/
  defaultProfile : Option String := none
  profiles : Table String Profile := ∅
  deriving DecidableEq, Repr, Inhabited

namespace Config

def ofDocument? (document : Document) : Option Config := do
  let fields ← document.namedFields?
    ["controller", "deletion", "user", "default_profile", "profiles"]
  return {
    controller := ← fields.withDefault "controller" {} ControllerSettings.ofDocument?
    deletion := ← fields.withDefault "deletion" .standard DeletionSettings.ofDocument?
    binding := ← fields.withDefault "user" .replace PolicyBinding.ofSection?
    defaultProfile := ← fields.optional "default_profile" Document.string?
    profiles := ← fields.withDefault "profiles" ∅ (Document.tableOf? Profile.ofDocument?) }

/-- Reads a configuration. -/
def read (text : String) : Except ConfigError Config :=
  match (Document.ofToml? text).bind ofDocument? with
  | some config => .ok config
  | none => .error .unreadable

def toJson (config : Config) : Value :=
  .ofMembers
    [("controller", config.controller.toJson), ("deletion", config.deletion.toJson),
      ("user", .ofMembers [("policy_binding", .string config.binding.text)]),
      ("default_profile", .ofOption .string config.defaultProfile),
      ("profiles", .ofMembers (config.profiles.entries.map fun entry =>
        (entry.1, entry.2.toJson)))]

def maxConcurrencyVariable : String :=
  "SILO_MAX_CONCURRENCY"

def pollIntervalVariable : String :=
  "SILO_POLL_INTERVAL_SECS"

/-- The variables that change a configuration. -/
def variableNames : List String :=
  [maxConcurrencyVariable, pollIntervalVariable]

/-- The number in a variable, or the given one if the variable is not set. -/
def override (environment : Environment) (variableName : String) (given : Nat) :
    Except ConfigError Nat :=
  match environment variableName with
  | none => .ok given
  | some raw =>
      (Text.readUnsigned (Text.trim raw)).mapError fun error =>
        .invalid variableName (Text.quoted raw ++ ": " ++ error.message)

/-- Takes over the settings of the environment. -/
def applyEnvironment (config : Config) (environment : Environment) :
    Except ConfigError Config := do
  let maxConcurrency ←
    override environment maxConcurrencyVariable config.controller.maxConcurrency
  let pollInterval ← override environment pollIntervalVariable config.controller.pollInterval
  return { config with controller := { config.controller with maxConcurrency, pollInterval } }

/-- Checks a profile: its address first, then its keys. -/
def validateProfile (name : String) (profile : Profile) : Except ConfigError Unit := do
  let key := "profiles." ++ name
  let url ← (Url.read (Text.trim profile.url)).mapError fun error =>
    .invalid (key ++ ".url") error.message
  if url.hostText?.isNone then .error (.invalid (key ++ ".url") "endpoint has no host")
  if profile.accessKey = "" then .error (.invalid (key ++ ".access_key") "must not be empty")
  if profile.secretKey.isNone ∧ profile.secretKeyEnv.isNone then
    .error (.invalid key "one of secret_key or secret_key_env is required")

/-- Checks a configuration: the numbers first, then the default profile, then the profiles in
the order of their names. -/
def validate (config : Config) : Except ConfigError Unit := do
  if config.controller.maxConcurrency = 0 then
    .error (.invalid "controller.max_concurrency" "must be at least 1")
  if config.controller.pollInterval = 0 then
    .error (.invalid "controller.poll_interval" "must be at least one second")
  if config.deletion.queueCapacity = 0 then
    .error (.invalid "deletion.queue_capacity" "must be at least 1")
  if config.deletion.batchSize = 0 then
    .error (.invalid "deletion.batch_size" "must be at least 1")
  match config.defaultProfile with
  | some name =>
      if ¬ config.profiles.contains name then
        .error (.invalid "default_profile" ("no profile named " ++ Text.quoted name))
  | none => pure ()
  config.profiles.entries.forM fun entry => validateProfile entry.1 entry.2

/-- Reads a configuration, lets the environment change it, and checks it. -/
def load (environment : Environment) (text : String) : Except ConfigError Config := do
  let config ← (← read text).applyEnvironment environment
  config.validate
  return config

/-- The variables that hold the secrets of profiles. -/
def secretVariables (config : Config) : List String :=
  config.profiles.values.filterMap Profile.secretKeyEnv

def resolver (config : Config) : Resolver :=
  ⟨config.profiles, config.defaultProfile⟩

/-- The engine that a configuration sets up. -/
def engine (config : Config) (environment : Environment) : Engine :=
  { resolver := config.resolver, environment, deletion := config.deletion,
    binding := config.binding }

end Config

end Steward
