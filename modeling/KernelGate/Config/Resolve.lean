import KernelGate.Config
import KernelGate.Setting.Source

/-!
# Configurations from settings

Every field of a configuration is fed by one setting. The port range and the pair of TLS files are
looked at before all others, so their faults come first.
-/

namespace KernelGate

namespace Sources

/-- The text of a setting, if it is set. -/
def text? (s : Sources) (setting : Setting) : Except ConfigFault (Option String) := do
  (← s.resolve setting).asText setting

/-- The integer of a setting, if it is set. -/
def integer? (s : Sources) (setting : Setting) : Except ConfigFault (Option Int) := do
  (← s.resolve setting).asInteger setting

/-- The flag of a setting. -/
def flag (s : Sources) (setting : Setting) : Except ConfigFault Bool := do
  (← s.resolve setting).asFlag setting

/-- The items of a setting. -/
def list (s : Sources) (setting : Setting) : Except ConfigFault (List String) := do
  (← s.resolve setting).asList setting

/-- The names of a setting. -/
def set (s : Sources) (setting : Setting) : Except ConfigFault NameSet := do
  (← s.resolve setting).asSet setting

/-- A count that is not negative. -/
def count (setting : Setting) (i : Int) : Except ConfigFault Nat :=
  if 0 ≤ i then .ok i.toNat else .error (.negative setting.name)

/-- A number of seconds. -/
def seconds (s : Sources) (setting : Setting) : Except ConfigFault Nat := do
  count setting ((← s.integer? setting).getD 0)

/-- A count, if it is set. -/
def count? (s : Sources) (setting : Setting) : Except ConfigFault (Option Nat) := do
  match ← s.integer? setting with
  | none => .ok none
  | some i => some <$> count setting i

/-- The number of a port. -/
def toPort (i : Int) : Except ConfigFault Port :=
  match Port.ofInt? i with
  | some p => .ok p
  | none => .error (.portOutOfRange i)

/-- The port of the listener. -/
def listenPort (s : Sources) : Except ConfigFault Port := do
  toPort ((← s.integer? .port).getD 8888)

/-- The band of ports for kernels. -/
def portRange (s : Sources) : Except ConfigFault PortRange := do
  match ← s.text? .portRange with
  | none => .ok .unrestricted
  | some raw => PortRange.parse raw

end Sources

/-- The configuration that the sources settle; without declared specs there is the standard one. -/
def Config.ofSources (s : Sources) (declared : List KernelSpec) : Except ConfigFault Config := do
  let portRange ← s.portRange
  let certFile? ← s.text? .certFile
  let keyFile? ← s.text? .keyFile
  -- One of the two without the other is of no use.
  if certFile?.isSome ≠ keyFile?.isSome then
    throw .halfTls
  let ip := (← s.text? .ip).getD ""
  let port ← s.listenPort
  let api := (← s.text? .api).getD ""
  let hosts ← s.list .remoteHosts
  let yarnEndpoint? ← s.text? .yarnEndpoint
  let altYarnEndpoint? ← s.text? .altYarnEndpoint
  let yarnSecurity ← s.flag .yarnSecurity
  let conductorEndpoint? ← s.text? .conductorEndpoint
  let impersonation ← s.flag .impersonation
  let denied ← s.set .unauthorizedUsers
  let allowed ← s.set .authorizedUsers
  let maxKernelsPerUser := (← s.integer? .maxKernelsPerUser).getD (-1)
  let maxKernels? ← s.count? .maxKernels
  let prespawn? ← s.count? .prespawnCount
  let defaultKernel := (← s.text? .defaultKernelName).getD ""
  let pingSeconds ← s.seconds .pingInterval
  let persistence ← s.flag .sessionPersistence
  let persistenceRoot := (← s.text? .persistenceRoot).getD ""
  let recoverySeconds ← s.seconds .recoveryTimeout
  let cullIdleSeconds ← s.seconds .cullIdleTimeout
  let cullIntervalSeconds ← s.seconds .cullInterval
  let graceSeconds ← s.seconds .shutdownGrace
  let metricsAddress? ← s.text? .metricsAddress
  let specs := if declared.isEmpty then [.python] else declared
  return {
    ip, port, certFile?, keyFile?, api, hosts, yarnEndpoint?, altYarnEndpoint?, yarnSecurity,
    conductorEndpoint?, impersonation, denied, allowed, portRange, maxKernelsPerUser, maxKernels?,
    prespawn?, defaultKernel, pingSeconds, persistence, persistenceRoot, recoverySeconds,
    cullIdleSeconds, cullIntervalSeconds, graceSeconds, metricsAddress?, specs }

end KernelGate
