import KernelGate.Launcher.Conduct
import KernelGate.Launcher.Template

/-!
# Kernels as child processes

A launcher that runs each kernel as a process of the gateway's own host, and remembers the process
by the kernel. A kernel that it has not started itself is looked for at the first of its ports.

Main statement: `terminate_of_stranger` (a kernel that it has not started is not ended).
-/

namespace KernelGate

/-- A program to run. -/
structure ProcessCommand where
  program : String
  arguments : List String
  /-- Variables that the process sees over those of the gateway. -/
  env : Dict String
  deriving DecidableEq, Inhabited

/-- How a process has ended. -/
inductive ExitStatus where
  | code (n : Nat)
  | signal (n : Nat)
  deriving DecidableEq, Repr, Inhabited

namespace ExitStatus

/-- The names of the signals, from the first on. -/
def signalNames : List String :=
  ["HUP", "INT", "QUIT", "ILL", "TRAP", "ABRT", "BUS", "FPE", "KILL", "USR1", "SEGV", "USR2",
    "PIPE", "ALRM", "TERM", "STKFLT", "CHLD", "CONT", "STOP", "TSTP", "TTIN", "TTOU", "URG",
    "XCPU", "XFSZ", "VTALRM", "PROF", "WINCH", "IO", "PWR", "SYS"]

/-- The name of a signal. -/
def signalName? (n : Nat) : Option String := if n = 0 then none else signalNames[n - 1]?

/-- The words for how a process has ended. -/
def text : ExitStatus → String
  | code n => "exit status: " ++ Text.naturalText n
  | signal n =>
    "signal: " ++ Text.naturalText n ++
      match signalName? n with
      | some name => " (SIG" ++ name ++ ")"
      | none => ""

end ExitStatus

/-- A host that runs processes, known by number, and connects to others. -/
class ProcessHost (H : Type) where
  spawn : H → ProcessCommand → H × Except IoFault Nat
  /-- How a process has ended, if it has. -/
  check : H → Nat → H × Except IoFault (Option ExitStatus)
  kill : H → Nat → H × Except IoFault Unit
  connect : H → String → Port → H × Except IoFault Unit

/-- Let go of a process that was held: it is killed, and nobody looks whether this succeeds. -/
def ProcessHost.letGo {H : Type} [ProcessHost H] (host : H) (child : Nat) : H :=
  (kill host child).1

/-- The launcher: its host, and the processes by their kernels. -/
structure LocalLauncher (H : Type) where
  host : H
  children : Dict Nat

namespace LaunchRequest

/-- The command of a launch: the spec's words filled in, the spec's variables, and over them those
of the launch. -/
def command (r : LaunchRequest) : Except LaunchFault ProcessCommand :=
  match r.spec.argv.map r.handle.fill with
  | [] => .error (.noCommand r.spec.name)
  | program :: arguments => .ok ⟨program, arguments, r.spec.env.overlay r.env⟩

end LaunchRequest

namespace LocalLauncher

variable {H : Type} [ProcessHost H]

/-- A launcher that has started nothing. -/
def new (host : H) : LocalLauncher H := ⟨host, ∅⟩

/-- Start the process of a kernel; it takes the place of an earlier one of that kernel, which is let
go of. -/
def launch (l : LocalLauncher H) (r : LaunchRequest) : LocalLauncher H × Result Unit :=
  match r.command with
  | .error e => (l, .error (.launch e))
  | .ok command =>
    match ProcessHost.spawn l.host command with
    | (host, .error cause) =>
      ({ l with host }, .error (.launch (.spawnFailed command.program cause)))
    | (host, .ok child) =>
      let host := match l.children.get? r.handle.id with
        | none => host
        | some earlier => ProcessHost.letGo host earlier
      (⟨host, l.children.insert r.handle.id child⟩, .ok ())

/-- Look for a kernel that this launcher has not started, at the first of its ports. -/
def reach (l : LocalLauncher H) (h : KernelHandle) : LocalLauncher H × Result Unit :=
  match h.ports with
  | [] => (l, .error (.recovery (.noPorts h.id)))
  | port :: _ =>
    match ProcessHost.connect l.host h.host port with
    | (host, .ok ()) => ({ l with host }, .ok ())
    | (host, .error cause) =>
      ({ l with host }, .error (.recovery (.unreachable h.id h.host port cause)))

/-- See whether a kernel is alive. -/
def probe (l : LocalLauncher H) (h : KernelHandle) : LocalLauncher H × Result Unit :=
  match l.children.get? h.id with
  | none => l.reach h
  | some child =>
    match ProcessHost.check l.host child with
    | (host, .error cause) => ({ l with host }, .error (.io cause))
    | (host, .ok none) => ({ l with host }, .ok ())
    | (host, .ok (some status)) =>
      ({ l with host }, .error (.recovery (.exited h.id status.text)))

/-- End a kernel's process. It is forgotten first, so a second call finds nothing; if it is not seen
to end, it is let go of. -/
def terminate (l : LocalLauncher H) (h : KernelHandle) : LocalLauncher H × Result Unit :=
  match l.children.get? h.id with
  | none => (l, .error (.launch (.notOurs h.id)))
  | some child =>
    -- From here on the process is no longer known, whatever comes of killing it.
    let children := l.children.erase h.id
    match ProcessHost.check l.host child with
    | (host, .error cause) => (⟨ProcessHost.letGo host child, children⟩, .error (.io cause))
    | (host, .ok (some _)) => (⟨host, children⟩, .ok ())
    | (host, .ok none) =>
      match ProcessHost.kill host child with
      | (host, .error cause) =>
        (⟨ProcessHost.letGo host child, children⟩, .error (.launch (.killFailed h.id cause)))
      | (host, .ok ()) => (⟨host, children⟩, .ok ())

instance : Launcher (LocalLauncher H) where
  respond l call :=
    let (l, result) := match call with
      | .launch request => l.launch request
      | .probe kernel => l.probe kernel
      | .terminate kernel => l.terminate kernel
    (l, .atOnce result)

theorem terminate_of_stranger {l : LocalLauncher H} {h : KernelHandle}
    (hc : l.children.get? h.id = none) : l.terminate h = (l, .error (.launch (.notOurs h.id))) := by
  simp [terminate, hc]

end LocalLauncher

end KernelGate
