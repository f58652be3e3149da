import Steward.CommandLine.Execute
import Steward.Controller.Basic
import Steward.Engine.Plan
import Steward.Main
import Steward.Queue.Callers
import Steward.Remote.Seeding
import Steward.Proofs.Execution
import Steward.Proofs.Calm
import Steward.Proofs.Report
import Steward.Proofs.Sight
import Steward.Proofs.Foresight
import Steward.Proofs.Effects
import Steward.Proofs.Lines
import Steward.Proofs.Advance
import Steward.Proofs.Settling
import Steward.Proofs.Presence
import Steward.Proofs.Ownership
import Steward.Proofs.Digits
import Steward.Proofs.JsonText
import Steward.Proofs.Json
import Steward.Proofs.JsonAlike
import Steward.Proofs.JsonPrefix
import Steward.Proofs.Inventory
import Steward.Proofs.Rounds
import Steward.Proofs.Isolation
import Steward.Proofs.Backing
import Steward.Proofs.Gate
import Steward.Proofs.Race
import Steward.Proofs.Emptying
import Steward.Proofs.Demolition
import Steward.Proofs.StoreWrite
import Steward.Proofs.Relay
import Steward.Proofs.Replay
import Steward.Proofs.Halves
import Steward.Proofs.Reports
import Steward.Proofs.Writers
import Steward.Proofs.Interruption
import Steward.Proofs.Credentials
import Steward.Proofs.Awakening
import Steward.Proofs.Remnants
import Steward.Proofs.Adoption
import Steward.Proofs.Document
import Steward.Proofs.RecordText
import Steward.Proofs.Veil
import Steward.Proofs.Discretion
import Steward.Proofs.Causes
import Steward.Proofs.Setback
import Steward.Proofs.Dismissal
import Steward.Proofs.Refusals
import Steward.Proofs.Foothold
import Steward.Proofs.Vetting
import Steward.Proofs.Removal
import Steward.Proofs.Forgetting
import Steward.Proofs.Amendment
import Steward.Proofs.Binding
import Steward.Proofs.Connecting
import Steward.Proofs.Sameness
import Steward.Proofs.Acceptance
import Steward.Proofs.Transition
import Steward.Proofs.Drainage
import Steward.Proofs.Naming
import Steward.Proofs.Difference
