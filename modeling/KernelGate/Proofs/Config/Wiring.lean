import KernelGate.Config.Resolve
import Mathlib.Data.List.Nodup

/-!
# Which setting feeds which field

Every setting feeds one field of the configuration, and every field but the list of specs is fed by
one setting. A *wire* says which, and how the field is made of what the setting turns out to be.

Main statements: `wires_settings` (one wire for each known setting), `Config.ext_wires` (the wires
reach all of a configuration), `field_of_ofSources` (a configuration holds what its wires carry),
`ofSources_congr` (nothing else counts).
-/

namespace KernelGate

/-- A setting, the field that it feeds, and how the field is made of the setting's value. -/
structure Wire where
  setting : Setting
  Field : Type
  field : Config → Field
  parse : SettingValue → Except ConfigFault Field

namespace Wire

/-- A text that may be missing. -/
def text? (setting : Setting) (field : Config → Option String) : Wire :=
  ⟨setting, Option String, field, fun v => v.asText setting⟩

/-- A text; it is empty where it is missing. -/
def text (setting : Setting) (field : Config → String) : Wire :=
  ⟨setting, String, field, fun v => do return (← v.asText setting).getD ""⟩

def flag (setting : Setting) (field : Config → Bool) : Wire :=
  ⟨setting, Bool, field, fun v => v.asFlag setting⟩

def list (setting : Setting) (field : Config → List String) : Wire :=
  ⟨setting, List String, field, fun v => v.asList setting⟩

def set (setting : Setting) (field : Config → NameSet) : Wire :=
  ⟨setting, NameSet, field, fun v => v.asSet setting⟩

/-- A number of seconds. -/
def seconds (setting : Setting) (field : Config → Nat) : Wire :=
  ⟨setting, Nat, field, fun v => do Sources.count setting ((← v.asInteger setting).getD 0)⟩

/-- A count that may be missing. -/
def count? (setting : Setting) (field : Config → Option Nat) : Wire :=
  ⟨setting, Option Nat, field, fun v => do
    match ← v.asInteger setting with
    | none => .ok none
    | some i => some <$> Sources.count setting i⟩

/-- The band of ports; without text for it there is no restriction. -/
def portRange : Wire :=
  ⟨.portRange, PortRange, (·.portRange), fun v => do
    match ← v.asText .portRange with
    | none => .ok .unrestricted
    | some raw => PortRange.parse raw⟩

/-- The limit of a user; none is written as minus one. -/
def maxKernelsPerUser : Wire :=
  ⟨.maxKernelsPerUser, Int, (·.maxKernelsPerUser), fun v => do
    return (← v.asInteger .maxKernelsPerUser).getD (-1)⟩

/-- The port of the listener. -/
def port : Wire :=
  ⟨.port, Port, (·.port), fun v => do Sources.toPort ((← v.asInteger .port).getD 8888)⟩

end Wire

/-- The wires, in the order of the settings. -/
def wires : List Wire :=
  [.list .remoteHosts (·.hosts), .text? .yarnEndpoint (·.yarnEndpoint?),
   .text? .altYarnEndpoint (·.altYarnEndpoint?), .flag .yarnSecurity (·.yarnSecurity),
   .text? .conductorEndpoint (·.conductorEndpoint?), .flag .impersonation (·.impersonation),
   .set .unauthorizedUsers (·.denied), .set .authorizedUsers (·.allowed), .portRange,
   .maxKernelsPerUser, .seconds .pingInterval (·.pingSeconds), .text .ip (·.ip), .port,
   .text .api (·.api), .text .defaultKernelName (·.defaultKernel),
   .count? .prespawnCount (·.prespawn?), .count? .maxKernels (·.maxKernels?),
   .text? .certFile (·.certFile?), .text? .keyFile (·.keyFile?),
   .flag .sessionPersistence (·.persistence), .text .persistenceRoot (·.persistenceRoot),
   .seconds .recoveryTimeout (·.recoverySeconds), .seconds .cullIdleTimeout (·.cullIdleSeconds),
   .seconds .cullInterval (·.cullIntervalSeconds), .seconds .shutdownGrace (·.graceSeconds),
   .text? .metricsAddress (·.metricsAddress?)]

/-- There is a wire for each setting that is known, in the order of the settings. -/
theorem wires_settings : wires.map (·.setting) = Setting.all := rfl

/-- No setting has two wires. -/
theorem nodup_settings : Setting.all.Nodup := by decide +kernel

theorem wire_of_mem {s : Setting} (h : s ∈ Setting.all) : ∃ w ∈ wires, w.setting = s := by
  rw [← wires_settings] at h
  exact List.mem_map.mp h

/-- A setting has one wire only. -/
theorem wire_unique {v w : Wire} (hv : v ∈ wires) (hw : w ∈ wires)
    (h : v.setting = w.setting) : v = w := by
  have h1 : (wires.map (·.setting)).Nodup := wires_settings ▸ nodup_settings
  exact List.inj_on_of_nodup_map h1 hv hw h

/-- Nothing of a configuration is left out by the wires but the specs. -/
theorem Config.ext_wires {c d : Config} (h : ∀ w ∈ wires, w.field c = w.field d)
    (hspecs : c.specs = d.specs) : c = d := by
  cases c
  cases d
  simp only [wires, List.forall_mem_cons, Wire.text?, Wire.text, Wire.flag, Wire.list, Wire.set,
    Wire.seconds, Wire.count?, Wire.portRange, Wire.maxKernelsPerUser, Wire.port] at h
  simp only [Config.mk.injEq, h, true_and]
  exact hspecs

/-! ## What a configuration is made of

Reading all settings and putting the fields together is long, and every field comes of it in the
same way. The wires say so field by field, and with them a configuration is compared field by field.
-/

/-- What is read first and then worked on may be worked on as it is read. -/
theorem read_bind {ε α β γ : Type} {x : Except ε α} {read : α → Except ε β} {g : β → Except ε γ}
    {r : Except ε γ} (h : ((x >>= read) >>= g) = r) : (x >>= fun v => read v >>= g) = r := by
  rwa [← bind_assoc]

theorem text_of_text? {s : Sources} {setting : Setting} {t? : Option String}
    (h : s.text? setting = .ok t?) (field : Config → String) :
    (s.resolve setting >>= (Wire.text setting field).parse) = .ok (t?.getD "") :=
  read_bind (bind_eq_ok_iff.mpr ⟨t?, h, rfl⟩)

/-- A configuration holds in each field what its wire carries. -/
theorem field_of_ofSources {s : Sources} {declared : List KernelSpec} {c : Config}
    (h : Config.ofSources s declared = .ok c) :
    c.specs = (if declared.isEmpty then [.python] else declared) ∧
      ∀ w ∈ wires, (s.resolve w.setting >>= w.parse) = .ok (w.field c) := by
  simp only [Config.ofSources] at h
  generalize (if declared.isEmpty then [.python] else declared) = specs at h ⊢
  obtain ⟨portRange, hportRange, h⟩ := bind_eq_ok_iff.mp h
  obtain ⟨certFile?, hcert, h⟩ := bind_eq_ok_iff.mp h
  obtain ⟨keyFile?, hkey, h⟩ := bind_eq_ok_iff.mp h
  split at h
  · cases h
  simp only [bind_eq_ok_iff] at h
  obtain ⟨ip, hip, port, hport, api, hapi, hosts, hhosts, yarn, hyarn, altYarn, haltYarn, security,
    hsecurity, conductor, hconductor, impersonation, himpersonation, denied, hdenied, allowed,
    hallowed, perUser, hperUser, max, hmax, prespawn, hprespawn, kernel, hkernel, ping, hping,
    persistence, hpersistence, root, hroot, recovery, hrecovery, idle, hidle, interval, hinterval,
    grace, hgrace, metrics, hmetrics, h⟩ := h
  cases h
  refine ⟨rfl, ?_⟩
  simp only [wires, List.forall_mem_cons]
  exact ⟨hhosts, hyarn, haltYarn, hsecurity, hconductor, himpersonation, hdenied, hallowed,
    read_bind hportRange, read_bind (bind_eq_ok_iff.mpr ⟨perUser, hperUser, rfl⟩),
    read_bind hping, text_of_text? hip _, read_bind hport, text_of_text? hapi _,
    text_of_text? hkernel _, read_bind hprespawn, read_bind hmax, hcert, hkey, hpersistence,
    text_of_text? hroot _, read_bind hrecovery, read_bind hidle, read_bind hinterval,
    read_bind hgrace, hmetrics, by simp⟩

/-- A configuration depends on what the known settings turn out to be, and on nothing else of its
sources. -/
theorem ofSources_congr {s t : Sources} (declared : List KernelSpec)
    (h : ∀ setting ∈ Setting.all, s.resolve setting = t.resolve setting) :
    Config.ofSources s declared = Config.ofSources t declared := by
  simp only [Setting.all, List.forall_mem_cons] at h
  simp only [Config.ofSources, Sources.text?, Sources.integer?, Sources.flag, Sources.list,
    Sources.set, Sources.seconds, Sources.count?, Sources.listenPort, Sources.portRange, h]

end KernelGate
