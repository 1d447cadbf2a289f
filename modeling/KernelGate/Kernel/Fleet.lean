import KernelGate.Activity
import KernelGate.Admission.Ledger
import KernelGate.Admission.Policy
import KernelGate.Config
import KernelGate.Metrics
import KernelGate.Port.Reservation

/-!
# The fleet of running kernels

The kernels that the gateway tracks, and the ledger of their users. A launch passes the policy, the
limit of the gateway, the limit of the user and the reservation of ports before the launcher is
called; a shutdown takes the kernel and its slot away before the launcher is called, and puts both
back if the kernel cannot be stopped.

Each operation is given as what happens before the launcher's answer and what happens after it, and
as the activity made of the two.
-/

namespace KernelGate

/-- Ports of each kernel: shell, output, input, heartbeat, control. -/
def portsPerKernel : Nat := 5

/-- What is settled about launches before the gateway starts. -/
structure FleetRules where
  policy : Policy
  maxKernels? : Option Nat
  portRange : PortRange
  /-- Hosts for kernels, used in turn. -/
  hosts : List String
  impersonation : Bool
  /-- The user of launches that name none. -/
  gatewayUser : String

/-- Sources of what the gateway does not choose itself: names for kernels and sessions, and the
outcomes of reserving ports. -/
structure Supply where
  kernelId : Nat → String
  sessionId : Nat → String
  ports : Nat → PortTrials

/-- A kernel that the gateway tracks. -/
structure Tracked where
  handle : KernelHandle
  /-- When it was last in use, in milliseconds. -/
  lastActivity : Nat
  deriving DecidableEq, Inhabited

/-- The running kernels. -/
structure Fleet where
  rules : FleetRules
  supply : Supply
  kernels : Dict Tracked
  ledger : Ledger
  /-- Launches that have been given a host. -/
  hostsUsed : Nat
  /-- Launches that have been given a name. -/
  named : Nat
  /-- Reservations of ports that have been tried. -/
  reservations : Nat
  metrics : Metrics
  /-- The time in milliseconds. -/
  now : Nat

namespace Fleet

/-- The fleet of a gateway that has just started. -/
def empty (rules : FleetRules) (limit : Int) (supply : Supply) : Fleet where
  rules
  supply
  kernels := ∅
  ledger := .empty limit
  hostsUsed := 0
  named := 0
  reservations := 0
  metrics := .zero
  now := 0

/-- The fleet that a configuration describes. -/
def ofConfig (c : Config) (gatewayUser : String) (supply : Supply) : Fleet :=
  empty
    { policy := c.policy
      maxKernels? := c.maxKernels?
      portRange := c.portRange
      hosts := c.hosts
      impersonation := c.impersonation
      gatewayUser }
    c.maxKernelsPerUser supply

/-! ## Looking -/

/-- The kernel of an id. -/
def get? (f : Fleet) (id : String) : Option KernelHandle := (f.kernels.get? id).map (·.handle)

/-- All kernels, in ascending order of their ids. -/
def list (f : Fleet) : List KernelHandle := f.kernels.values.map (·.handle)

/-- The ids of the kernels that have been idle for a time. -/
def idle (f : Fleet) (millis : Nat) : List String :=
  (f.kernels.filter fun _ k => millis ≤ f.now - k.lastActivity).keys

/-- Note that a kernel is in use. -/
def touch (f : Fleet) (id : String) : Fleet :=
  match f.kernels.get? id with
  | none => f
  | some k => { f with kernels := f.kernels.insert id { k with lastActivity := f.now } }

/-! ## Changes -/

/-- Set the figure of running kernels. -/
def gauge (f : Fleet) : Fleet := { f with metrics := f.metrics.setActive f.kernels.size }

/-- Count a refused launch. -/
def refuse (f : Fleet) (r : Refusal) : Fleet := { f with metrics := f.metrics.countRefusal r }

/-- Track a kernel. -/
def track (f : Fleet) (k : Tracked) : Fleet :=
  gauge { f with kernels := f.kernels.insert k.handle.id k }

/-- The user of a launch: the one that the client names, else the gateway's own. -/
def userOf (f : Fleet) (p : LaunchParams) : String := p.user?.getD f.rules.gatewayUser

/-- The host for the next launch. -/
def nextHost (f : Fleet) : String :=
  if h : f.rules.hosts.length = 0 then "localhost"
  else f.rules.hosts.get ⟨f.hostsUsed % f.rules.hosts.length, Nat.mod_lt _ (Nat.pos_of_ne_zero h)⟩

/-- The variables of a launch: those of the client, and over them what the gateway says. -/
def launchEnv (f : Fleet) (spec : KernelSpec) (p : LaunchParams) (h : KernelHandle) :
    Dict String :=
  p.env.insert userVariable h.user
    |>.insert "KERNEL_ID" h.id
    |>.insert "KERNEL_NAME" spec.name
    |>.insert "EG_IMPERSONATION_ENABLED" (if f.rules.impersonation then "True" else "False")

/-- Whether the gateway runs as many kernels as it may. -/
def isFull (f : Fleet) : Bool :=
  match f.rules.maxKernels? with
  | none => false
  | some max => max ≤ f.kernels.size

/-- Give a launch that has its ports a name and a host. -/
def prepare (f : Fleet) (spec : KernelSpec) (p : LaunchParams) (user : String)
    (ports : List Port) : Fleet × LaunchRequest :=
  let handle : KernelHandle :=
    { id := f.supply.kernelId f.named, name := spec.name, user, host := f.nextHost, ports }
  ({ f with
      named := f.named + 1
      hostsUsed := if f.rules.hosts.isEmpty then f.hostsUsed else f.hostsUsed + 1 },
    { handle, spec, env := f.launchEnv spec p handle })

/-- What happens before the launcher is called: the launch is refused, or a slot is taken, ports
are reserved, and the kernel gets a name and a host. -/
def admitLaunch (f : Fleet) (spec : KernelSpec) (p : LaunchParams) : Fleet × Result LaunchRequest :=
  let user := f.userOf p
  if !f.rules.policy.admits user then (f.refuse .unauthorized, .error (.unauthorized user))
  else if f.isFull then
    (f.refuse .gatewayFull,
      .error (.quotaExceeded (.gatewayFull (f.rules.maxKernels?.getD 0))))
  else
    match f.ledger.acquire? user with
    | none =>
      (f.refuse .userFull, .error (.quotaExceeded (.userFull user f.ledger.limit)))
    | some ledger =>
      -- The slot is taken from here on, and given back if no ports can be had.
      let f := { f with ledger }
      let trials := f.supply.ports f.reservations
      let f := { f with reservations := f.reservations + 1 }
      match f.rules.portRange.reserve trials portsPerKernel with
      | .error e => ({ f with ledger := f.ledger.release user }, .error e)
      | .ok ports =>
        let (f, request) := f.prepare spec p user ports
        (f, .ok request)

/-- What happens after the launcher's answer: the kernel is tracked, or its slot is given back. -/
def settleLaunch (f : Fleet) (r : LaunchRequest) (answer : Result Unit) :
    Fleet × Result KernelHandle :=
  match answer with
  | .error e => ({ f with ledger := f.ledger.release r.handle.user }, .error e)
  | .ok () => (f.track ⟨r.handle, f.now⟩, .ok r.handle)

/-- Track a kernel that is found alive, without regard to limits. -/
def adopt (f : Fleet) (h : KernelHandle) : Fleet :=
  track { f with ledger := f.ledger.restore h.user } ⟨h, f.now⟩

/-- What happens before the launcher is asked to end a kernel: it and its slot are taken away. -/
def beginShutdown (f : Fleet) (id : String) : Fleet × Result Tracked :=
  match f.kernels.get? id with
  | none => (f, .error (.notFound (.kernel id)))
  | some k =>
    (gauge { f with
        kernels := f.kernels.erase id
        ledger := f.ledger.release k.handle.user },
      .ok k)

/-- What happens after the launcher's answer: a kernel that could not be stopped is tracked as
before. -/
def settleShutdown (f : Fleet) (k : Tracked) (answer : Result Unit) : Fleet × Result KernelHandle :=
  match answer with
  | .error e => (track { f with ledger := f.ledger.restore k.handle.user } k, .error e)
  | .ok () => (f, .ok k.handle)

/-! ## Operations -/

/-- Launch a kernel. -/
def create (spec : KernelSpec) (p : LaunchParams) : Activity Fleet (Result KernelHandle) := do
  match ← Activity.atOnce (admitLaunch · spec p) with
  | .error e => return .error e
  | .ok request =>
    let answer ← Activity.await (.launch request)
    Activity.atOnce (settleLaunch · request answer)

/-- Take over a kernel of an earlier run, if it is found alive in time; one that is tracked already
is left as it is. -/
def reattach (limit : Option Nat) (h : KernelHandle) : Activity Fleet (Result Unit) := do
  let f ← Activity.look
  if f.kernels.contains h.id then return .ok ()
  else
    Activity.call (.probe h) limit fun
      | none => .done (.error (.recovery .timedOut))
      | some (.error e) => .done (.error e)
      | some (.ok ()) => .step (adopt · h) fun _ => .done (.ok ())

/-- End a kernel. -/
def shutdown (id : String) : Activity Fleet (Result KernelHandle) := do
  match ← Activity.atOnce (beginShutdown · id) with
  | .error e => return .error e
  | .ok k =>
    let answer ← Activity.await (.terminate k.handle)
    Activity.atOnce (settleShutdown · k answer)

end Fleet

end KernelGate
