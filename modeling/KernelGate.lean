import KernelGate.Activity
import KernelGate.Admission.Ledger
import KernelGate.Admission.Policy
import KernelGate.Binary64
import KernelGate.Command.Arguments
import KernelGate.Command.LogFilter
import KernelGate.Command.Run
import KernelGate.Command.Supply
import KernelGate.Config
import KernelGate.Config.File
import KernelGate.Config.Resolve
import KernelGate.Dict
import KernelGate.Fault
import KernelGate.Host.Files
import KernelGate.Host.Listener
import KernelGate.Host.Machine
import KernelGate.Host.Network
import KernelGate.Host.Program
import KernelGate.Host.Shell
import KernelGate.Host.Variables
import KernelGate.Http.Api
import KernelGate.Http.MediaType
import KernelGate.Http.Route
import KernelGate.Http.Status
import KernelGate.Json
import KernelGate.Json.Decode
import KernelGate.Json.Found
import KernelGate.Json.Lexeme
import KernelGate.Kernel.Catalog
import KernelGate.Kernel.Codec
import KernelGate.Kernel.Fleet
import KernelGate.Kernel.Handle
import KernelGate.Kernel.Launch
import KernelGate.Kernel.Spec
import KernelGate.Launcher.Conduct
import KernelGate.Launcher.Local
import KernelGate.Launcher.Scripted
import KernelGate.Launcher.Template
import KernelGate.Lifecycle.Coordinator
import KernelGate.Lifecycle.Culling
import KernelGate.Lifecycle.EventLoop
import KernelGate.Lifecycle.Phase
import KernelGate.Lifecycle.Serving
import KernelGate.Lifecycle.Startup
import KernelGate.Main
import KernelGate.Metrics
import KernelGate.Port.Range
import KernelGate.Port.Reservation
import KernelGate.Proofs.Activity.History
import KernelGate.Proofs.Activity.Holding
import KernelGate.Proofs.Activity.Outcome
import KernelGate.Proofs.Activity.Pool
import KernelGate.Proofs.Activity.Waits
import KernelGate.Proofs.Activity.Zoom
import KernelGate.Proofs.Config.Precedence
import KernelGate.Proofs.Config.Spellings
import KernelGate.Proofs.Config.Validity
import KernelGate.Proofs.Config.Wiring
import KernelGate.Proofs.Dict.Counting
import KernelGate.Proofs.Dict.Searching
import KernelGate.Proofs.Fleet.Admission
import KernelGate.Proofs.Fleet.Attention
import KernelGate.Proofs.Fleet.Backing
import KernelGate.Proofs.Fleet.Calls
import KernelGate.Proofs.Fleet.Conservation
import KernelGate.Proofs.Fleet.Effects
import KernelGate.Proofs.Fleet.Figures
import KernelGate.Proofs.Fleet.GivenUp
import KernelGate.Proofs.Fleet.Limits
import KernelGate.Proofs.Fleet.Naming
import KernelGate.Proofs.Fleet.Neighbours
import KernelGate.Proofs.Fleet.Rotation
import KernelGate.Proofs.Fleet.Solo
import KernelGate.Proofs.Fleet.Traffic
import KernelGate.Proofs.Fleet.Uses
import KernelGate.Proofs.Fleet.Visits
import KernelGate.Proofs.Host.Changes
import KernelGate.Proofs.Host.Folders
import KernelGate.Proofs.Host.Variables
import KernelGate.Proofs.Http.Answers
import KernelGate.Proofs.Http.Exchange
import KernelGate.Proofs.Http.Requests
import KernelGate.Proofs.Json.Lexing
import KernelGate.Proofs.Json.Reading
import KernelGate.Proofs.Kernel.Catalog
import KernelGate.Proofs.Kernel.Codec
import KernelGate.Proofs.Kernel.Declared
import KernelGate.Proofs.Kernel.Formats
import KernelGate.Proofs.Kernel.Wish
import KernelGate.Proofs.Launcher.Filling
import KernelGate.Proofs.Launcher.Retrying
import KernelGate.Proofs.Ledger.Clients
import KernelGate.Proofs.Ledger.Slots
import KernelGate.Proofs.Ledger.Users
import KernelGate.Proofs.Lifecycle.Bringing
import KernelGate.Proofs.Lifecycle.Closing
import KernelGate.Proofs.Lifecycle.Doings
import KernelGate.Proofs.Lifecycle.Heeding
import KernelGate.Proofs.Lifecycle.Identity
import KernelGate.Proofs.Lifecycle.Looping
import KernelGate.Proofs.Lifecycle.Prespawn
import KernelGate.Proofs.Lifecycle.Reachable
import KernelGate.Proofs.Lifecycle.Rollback
import KernelGate.Proofs.Lifecycle.Serving
import KernelGate.Proofs.Lifecycle.Starting
import KernelGate.Proofs.Lifecycle.Stopping
import KernelGate.Proofs.Port.Band
import KernelGate.Proofs.Port.Grammar
import KernelGate.Proofs.Port.Passes
import KernelGate.Proofs.Registry.Alone
import KernelGate.Proofs.Registry.Backing
import KernelGate.Proofs.Registry.Calls
import KernelGate.Proofs.Registry.Chore
import KernelGate.Proofs.Registry.Culling
import KernelGate.Proofs.Registry.Ending
import KernelGate.Proofs.Registry.Errand
import KernelGate.Proofs.Registry.Figures
import KernelGate.Proofs.Registry.Finding
import KernelGate.Proofs.Registry.InUse
import KernelGate.Proofs.Registry.Launching
import KernelGate.Proofs.Registry.Overlap
import KernelGate.Proofs.Registry.Records
import KernelGate.Proofs.Registry.Recovery
import KernelGate.Proofs.Registry.Restart
import KernelGate.Proofs.Registry.Rotation
import KernelGate.Proofs.Registry.Sequential
import KernelGate.Proofs.Registry.Steady
import KernelGate.Proofs.Registry.Turns
import KernelGate.Proofs.Registry.Uses
import KernelGate.Proofs.Rehearsal.Patience
import KernelGate.Proofs.Session.Confinement
import KernelGate.Proofs.Session.Directory
import KernelGate.Proofs.Session.Keepers
import KernelGate.Proofs.Session.Listing
import KernelGate.Proofs.Session.Refinement
import KernelGate.Proofs.Session.Reliable
import KernelGate.Proofs.Text.Literals
import KernelGate.Proofs.Text.Replacing
import KernelGate.Rehearsal.Clock
import KernelGate.Rehearsal.Life
import KernelGate.Rehearsal.Names
import KernelGate.Rehearsal.Stage
import KernelGate.Scatter
import KernelGate.Session.FileStore
import KernelGate.Session.Keeper
import KernelGate.Session.Registry
import KernelGate.Session.ScriptedStore
import KernelGate.Session.Store
import KernelGate.Setting
import KernelGate.Setting.Source
import KernelGate.Setting.Value
import KernelGate.Text.Blank
import KernelGate.Text.Cut
import KernelGate.Text.Decimal
import KernelGate.Text.Printable
import KernelGate.Text.Quoted
import KernelGate.Text.Utf8
import KernelGate.Toml.Datetime
import KernelGate.Toml.Document
import KernelGate.Toml.Lexeme
import KernelGate.Toml.Tree
import KernelGate.Toml.Value
