import KernelGate.Admission.Policy
import KernelGate.Kernel.Spec
import KernelGate.Port.Range

/-!
# The configuration of a gateway

All that a gateway is told before it starts. Times are in seconds.
-/

namespace KernelGate

/-- The configuration of a gateway. -/
structure Config where
  /-- The address of the listener. -/
  ip : String
  port : Port
  certFile? : Option String
  keyFile? : Option String
  /-- The name of the interface for clients. -/
  api : String
  /-- Hosts for kernels, used in turn. -/
  hosts : List String
  yarnEndpoint? : Option String
  altYarnEndpoint? : Option String
  yarnSecurity : Bool
  conductorEndpoint? : Option String
  impersonation : Bool
  denied : NameSet
  allowed : NameSet
  portRange : PortRange
  /-- A negative number is no limit. -/
  maxKernelsPerUser : Int
  maxKernels? : Option Nat
  /-- Kernels to start before the gateway opens. -/
  prespawn? : Option Nat
  defaultKernel : String
  /-- Zero switches pings off. -/
  pingSeconds : Nat
  /-- Whether session records are kept in files. -/
  persistence : Bool
  persistenceRoot : String
  recoverySeconds : Nat
  /-- Zero switches culling off. -/
  cullIdleSeconds : Nat
  cullIntervalSeconds : Nat
  graceSeconds : Nat
  metricsAddress? : Option String
  specs : List KernelSpec
  deriving DecidableEq

namespace Config

/-- The configuration of a gateway that is told nothing. -/
def standard : Config where
  ip := "127.0.0.1"
  port := .ofNat 8888
  certFile? := none
  keyFile? := none
  api := "jupyter-websocket"
  hosts := ["localhost"]
  yarnEndpoint? := none
  altYarnEndpoint? := none
  yarnSecurity := false
  conductorEndpoint? := none
  impersonation := false
  denied := .ofNames ["root"]
  allowed := ∅
  portRange := .unrestricted
  maxKernelsPerUser := -1
  maxKernels? := none
  prespawn? := none
  defaultKernel := "python3"
  pingSeconds := 30
  persistence := false
  persistenceRoot := "kernel-sessions"
  recoverySeconds := 5
  cullIdleSeconds := 0
  cullIntervalSeconds := 300
  graceSeconds := 5
  metricsAddress? := none
  specs := [.python]

instance : Inhabited Config := ⟨standard⟩

/-- Whether clients are served over TLS. -/
def usesTls (c : Config) : Bool := c.certFile?.isSome && c.keyFile?.isSome

/-- The scheme of the gateway's address. -/
def scheme (c : Config) : String := if c.usesTls then "https" else "http"

/-- The gateway's address. -/
def baseUrl (c : Config) : String :=
  c.scheme ++ "://" ++ c.ip ++ ":" ++ Text.naturalText c.port

/-- The time between pings, if there are any. -/
def pings? (c : Config) : Option Nat := if c.pingSeconds = 0 then none else some c.pingSeconds

/-- The idle time after which kernels are culled, if they are. -/
def cullIdle? (c : Config) : Option Nat :=
  if c.cullIdleSeconds = 0 then none else some c.cullIdleSeconds

/-- The time between pings in milliseconds, within 64 bits; zero where there are none. -/
def pingMillis (c : Config) : Nat := min (c.pingSeconds * 1000) 18446744073709551615

/-- Who may start kernels. -/
def policy (c : Config) : Policy := ⟨c.denied, c.allowed⟩

/-- Limits that contradict each other: more kernels to start than may run. -/
def checkLimits (c : Config) : Except ConfigFault Unit :=
  match c.prespawn?, c.maxKernels? with
  | some prespawn, some max =>
    if prespawn > max then .error (.prespawnAboveMax prespawn max) else .ok ()
  | _, _ => .ok ()

end Config

end KernelGate
