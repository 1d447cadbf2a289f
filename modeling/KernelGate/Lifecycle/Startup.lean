import KernelGate.Http.Api
import KernelGate.Lifecycle.Coordinator

/-!
# Starting a gateway

A start puts the parts of the gateway together before it touches any kernel or record. It then takes
over the kernels of earlier runs, opens the interface for clients and launches the kernels that are
to wait for them. If one of these fails, the kernels that this run has launched are ended, those
that were taken over are left alone, and the gateway's life is over.
-/

namespace KernelGate

/-- What a gateway is put together from, besides its configuration. -/
structure Parts (S : Type) where
  /-- The user of launches that name none. -/
  gatewayUser : String
  supply : Supply
  /-- Why no kernels can be run, if so. -/
  obstacle? : Option Fault
  /-- The store of session records, or why it cannot be opened. -/
  store : Result S
  /-- Whether it is noted which kernels are in use. -/
  tracksUse : Bool

/-- A gateway: its configuration, its phase and the requests to stop it, its kernels and their
sessions, and the interface that it offers. -/
structure Gateway (S : Type) where
  config : Config
  control : Coordinator
  catalog : Catalog
  registry : Registry S
  tracksUse : Bool
  api : Api

namespace Gateway

variable {S : Type}

/-- Put the parts together: the catalog, the fleet, the store. -/
def assemble (c : Config) (parts : Parts S) : Result (Catalog × Registry S) := do
  let catalog ← (Catalog.ofSpecs c.specs).mapError Fault.configuration
  match parts.obstacle? with
  | some e => throw e
  | none => pure ()
  let store ← parts.store
  c.checkLimits.mapError Fault.configuration
  return (catalog,
    .new (.ofConfig c parts.gatewayUser parts.supply) store (c.recoverySeconds * 1000))

/-- The first part of a start: enter the starting phase and put the parts together. -/
def prepare (c : Config) (parts : Parts S) (control : Coordinator) :
    Coordinator × Result (Gateway S) :=
  if !control.phase.allows .uninitialized then
    (control, .error (.phase (.cannotStart control.phase.name)))
  else
    let control := control.move .uninitialized .starting
    match assemble c parts with
    | .error e => (control.finish, .error e)
    | .ok (catalog, registry) =>
      (control,
        .ok ⟨c, control, catalog, registry, parts.tracksUse, ⟨c.pingMillis, none⟩⟩)

/-- An operation of the registry. -/
def onRegistry {α : Type} (a : Activity (Registry S) α) : Activity (Gateway S) α :=
  a.zoom (·.registry) fun g r => { g with registry := r }

/-- Enter the last phase. -/
def finish (g : Gateway S) : Gateway S := { g with control := g.control.finish }

/-- The interface that the configuration names, with its kernel resources open. -/
def openApi (g : Gateway S) : Except ConfigFault Api := do
  let api ← Api.ofConfig g.config
  api.openKernels g.config g.catalog g.tracksUse

variable [SessionStore S]

/-- Launch kernels of a spec that wait for clients. -/
def prespawn (spec : KernelSpec) : (count : Nat) → Activity (Registry S) (Result Unit)
  | 0 => return .ok ()
  | count + 1 => do
    match ← Registry.startKernel spec .silent with
    | .error e => return .error e
    | .ok _ => prespawn spec count

/-- Launch the kernels that the configuration asks for. -/
def prespawnAll (c : Config) (catalog : Catalog) : Activity (Registry S) (Result Unit) :=
  match c.prespawn?.getD 0 with
  | 0 => return .ok ()
  | count + 1 =>
    match catalog.get c.defaultKernel with
    | .error e => return .error (.notFound e)
    | .ok spec => prespawn spec (count + 1)

/-- Give up: end the kernels that this run has launched, and enter the last phase. -/
def giveUp (e : Fault) : Activity (Gateway S) (Result Unit) := do
  onRegistry Registry.shutdownStarted
  Activity.change finish
  return .error e

/-- The second part of a start: take over kernels, open the interface, launch kernels. -/
def bring : Activity (Gateway S) (Result Unit) := do
  let _ ← onRegistry Registry.startSessions
  let g ← Activity.look
  match g.openApi with
  | .error e => giveUp (.configuration e)
  | .ok api =>
    Activity.change fun (g : Gateway S) => { g with api }
    match ← onRegistry (prespawnAll g.config g.catalog) with
    | .error e => giveUp e
    | .ok () => return .ok ()

end Gateway

end KernelGate
