import KernelGate.Command.Arguments
import KernelGate.Command.LogFilter
import KernelGate.Config.File
import KernelGate.Host.Listener
import KernelGate.Host.Machine
import KernelGate.Lifecycle.Serving
import KernelGate.Session.Keeper

/-!
# Running the command

A run reads its configuration, starts the gateway with kernels as processes of its own machine,
serves until a signal ends it, and logs how far it came.
-/

namespace KernelGate

/-- How far a run came. -/
inductive Milestone where
  | starting
  | configured
  | listening
  | prespawned
  | stopping
  | stopped
  | complete
  deriving DecidableEq, Repr, Inhabited

namespace Milestone

/-- All milestones. -/
def all : List Milestone :=
  [starting, configured, listening, prespawned, stopping, stopped, complete]

/-- The words of a milestone in the log. -/
def words : Milestone → String
  | starting => "kernel-gateway starting"
  | configured => "Configuration loaded"
  | listening => "Gateway listening"
  | prespawned => "Prespawned kernels"
  | stopping => "Shutting down gateway"
  | stopped => "Gateway stopped"
  | complete => "Shutdown complete"

/-- The part of the gateway that logs a milestone. -/
def source : Milestone → String
  | starting => "kernel_gateway"
  | configured => "kernel_gateway"
  | listening => "kernel_gateway::lifecycle::gateway"
  | prespawned => "kernel_gateway::lifecycle::startup"
  | stopping => "kernel_gateway::lifecycle::gateway"
  | stopped => "kernel_gateway::lifecycle::gateway"
  | complete => "kernel_gateway"

end Milestone

/-- A line of the log. -/
inductive LogLine where
  | reached (m : Milestone)
  | failed (f : Fault)
  deriving DecidableEq, Repr

namespace LogLine

/-- The level of a line. -/
def level : LogLine → LogLevel
  | reached _ => .info
  | failed _ => .error

/-- The part of the gateway that a line comes from. -/
def source : LogLine → String
  | reached m => m.source
  | failed _ => "kernel_gateway"

end LogLine

/-- A signal to the process. -/
inductive StopSignal where
  | hangUp
  | terminate
  | interrupt
  deriving DecidableEq, Repr, Inhabited

/-- What a run has at hand: how to read files, its machine, ids and ports, and the ports that others
hold. -/
structure RunContext where
  read : Listener.FileReader
  machine : Machine
  supply : Supply
  taken : List Port

/-- How a run has ended: its exit code, none if it still serves, and its log. -/
structure RunOutcome where
  exit? : Option Nat
  log : List LogLine

namespace Gateway

/-- The gateway after a signal, and after what its event loop does about it. -/
def signal {S : Type} (g : Gateway S) (s : StopSignal) : Gateway S :=
  let control := match s with
    | .hangUp => g.control.hangUp
    | .terminate => g.control.terminate
    | .interrupt => g.control.interrupt
  runLoop { g with control }

end Gateway

namespace Invocation

/-- The state of a run: its log, the launcher and, once it is put together, the gateway. -/
abbrev RunState := LocalLauncher Machine × Gateway RecordKeeper

/-- Carry out an activity of the gateway. -/
def carryOut {α : Type} (a : Activity (Gateway RecordKeeper) α) (s : RunState) : RunState × α :=
  let (l, g, x) := a.run Launcher.reply s.1 s.2
  ((l, g), x)

/-- A run that has failed. -/
def failed (log : List Milestone) (f : Fault) : RunOutcome :=
  ⟨some 1, log.map LogLine.reached ++ [.failed f]⟩

/-- The configuration of a run. -/
def loadConfig (inv : Invocation) (around : RunContext) : Except ConfigFault Config := do
  let overrides ← inv.overrides
  let file ← match inv.configPath? with
    | some path => ConfigFile.ofBytes path (around.read path)
    | none => pure ConfigFile.empty
  Config.load file overrides around.machine.env

/-- Serve until the signals have ended the run. -/
def serve (signals : List StopSignal) (log : List Milestone) (s : RunState) : RunOutcome :=
  let s := (s.1, signals.foldl Gateway.signal s.2)
  if s.2.loopEnded then
    -- What comes of ending the kernels is not shown.
    let _ := carryOut Gateway.close s
    ⟨some 0, (log ++ [Milestone.stopping, .stopped, .complete]).map LogLine.reached⟩
  else ⟨none, log.map LogLine.reached⟩

/-- A run with a configuration. -/
def runGateway (c : Config) (around : RunContext) (signals : List StopSignal)
    (log : List Milestone) : RunOutcome :=
  let parts : Parts RecordKeeper :=
    { gatewayUser := loginUser around.machine.env
      supply := around.supply
      obstacle? := none
      store := RecordKeeper.ofConfig c around.machine.files
      tracksUse := true }
  match Gateway.prepare c parts .initial with
  | (_, .error e) => failed log e
  | (_, .ok g) =>
    match carryOut Gateway.bring (.new around.machine, g) with
    | (_, .error e) => failed log e
    | (s, .ok ()) =>
      let log := if (c.prespawn?.getD 0) = 0 then log else log ++ [.prespawned]
      let listener := Listener.bind c around.read around.taken
      match carryOut (Gateway.beginServing listener) s with
      | (_, .error e) => failed log e
      | (s, .ok ()) => serve signals (log ++ [.listening]) s

/-- A run of the command. -/
def run (inv : Invocation) (around : RunContext) (signals : List StopSignal) : RunOutcome :=
  match inv.loadConfig around with
  | .error e => failed [.starting] (.configuration e)
  | .ok c => runGateway c around signals [.starting, .configured]

/-- The filter for the log of a run. -/
def logFilter (inv : Invocation) (env : Environment) : LogFilter :=
  .choose (env.get? "RUST_LOG") (inv.logLevel?.getD "info")

/-- The lines that the log keeps. -/
def keptLines (inv : Invocation) (env : Environment) (outcome : RunOutcome) : List LogLine :=
  outcome.log.filter fun line => (inv.logFilter env).keeps line.source line.level

end Invocation

end KernelGate
