import KernelGate.Kernel.Fleet
import KernelGate.Session.Store

/-!
# The registry of sessions

The registry keeps a record of every kernel's session in a store, so that a later run of the
gateway can take the kernels over. A failing store never stops a kernel from being started or
ended. A record goes only when its kernel is stopped, or cannot be taken over.
-/

namespace KernelGate

/-- The fleet, the store of session records, and which kernels this run has launched. -/
structure Registry (S : Type) where
  fleet : Fleet
  store : S
  started : NameSet
  /-- Sessions that have been given a name. -/
  named : Nat
  /-- Milliseconds that taking over one kernel may take. -/
  recoveryLimit : Nat

/-- Which sessions were taken over and which were dropped. -/
structure RecoveryReport where
  recovered : List String
  dropped : List String
  deriving DecidableEq, Repr, Inhabited

namespace Registry

variable {S : Type}

/-- The registry of a gateway that has just started. -/
def new (fleet : Fleet) (store : S) (recoveryLimit : Nat) : Registry S :=
  ⟨fleet, store, ∅, 0, recoveryLimit⟩

/-- An operation of the fleet. -/
def onFleet {α : Type} (a : Activity Fleet α) : Activity (Registry S) α :=
  a.zoom (·.fleet) fun r f => { r with fleet := f }

/-- Change the figures. -/
def count (r : Registry S) (f : Metrics → Metrics) : Registry S :=
  { r with fleet := { r.fleet with metrics := f r.fleet.metrics } }

variable [SessionStore S]

/-- Keep a record of a kernel that has been launched. -/
def enlist (r : Registry S) (h : KernelHandle) (p : LaunchParams) : Registry S × SessionRecord :=
  let record : SessionRecord := ⟨r.fleet.supply.sessionId r.named, h, p⟩
  ({ r with
      started := r.started.add h.id
      named := r.named + 1
      store := (SessionStore.persist r.store record).1 },
    record)

/-- Forget the record of a session; that it cannot be removed does not count. -/
def drop (r : Registry S) (session : String) : Registry S :=
  { r with store := (SessionStore.remove r.store session).1 }

/-- Forget a kernel that has been stopped: all its records go. -/
def forget (r : Registry S) (kernel : String) : Registry S :=
  let r := { r with started := r.started.erase kernel }
  -- A kernel may have several records, under different sessions.
  let (store, records) := SessionStore.list r.store
  let r := { r with store }
  match records with
  | .error _ => r
  | .ok records =>
    (records.filter fun record => record.kernel.id = kernel).foldl
      (fun r record => r.drop record.sessionId) r

/-- Launch a kernel and keep a record of its session. -/
def startKernel (spec : KernelSpec) (p : LaunchParams) :
    Activity (Registry S) (Result SessionRecord) := do
  match ← onFleet (Fleet.create spec p) with
  | .error e => return .error e
  | .ok h => return .ok (← Activity.atOnce (enlist · h p))

/-- End a kernel and forget it. -/
def shutdownKernel (id : String) : Activity (Registry S) (Result Unit) := do
  match ← onFleet (Fleet.shutdown id) with
  | .error e => return .error e
  | .ok _ =>
    Activity.change (forget · id)
    return .ok ()

/-- Take over the kernels of records one after another. -/
def recoverEach (limit : Nat) : List SessionRecord → Activity (Registry S) RecoveryReport
  | [] => return ⟨[], []⟩
  | record :: rest => do
    match ← onFleet (Fleet.reattach (some limit) record.kernel) with
    | .ok () =>
      Activity.change (count · Metrics.countRecovered)
      let report ← recoverEach limit rest
      return { report with recovered := record.sessionId :: report.recovered }
    | .error _ =>
      Activity.change fun r => (r.count Metrics.countDropped).drop record.sessionId
      let report ← recoverEach limit rest
      return { report with dropped := record.sessionId :: report.dropped }

/-- The records of the store; none where they cannot be listed. -/
def records (r : Registry S) : Registry S × List SessionRecord :=
  let (store, found) := SessionStore.list r.store
  ({ r with store }, found.toOption.getD [])

/-- Take over the kernels of all records, and drop the records of those that cannot be. -/
def startSessions : Activity (Registry S) RecoveryReport := do
  let r ← Activity.look
  let found ← Activity.atOnce records
  recoverEach r.recoveryLimit found

/-- End kernels one after another; how many could be stopped. -/
def shutdownEach : List String → Activity (Registry S) Nat
  | [] => return 0
  | id :: rest => do
    let outcome ← shutdownKernel id
    let stopped ← shutdownEach rest
    return match outcome with
      | .ok () => stopped + 1
      | .error _ => stopped

/-- End all kernels. -/
def shutdownAll : Activity (Registry S) Unit := do
  let r ← Activity.look
  let _ ← shutdownEach r.fleet.kernels.keys

/-- End the kernels that this run has launched. -/
def shutdownStarted : Activity (Registry S) Unit := do
  let r ← Activity.look
  let _ ← shutdownEach r.started.keys

/-- End kernels that are not in use, and count those that could be stopped. -/
def cull (ids : List String) : Activity (Registry S) Nat := do
  let stopped ← shutdownEach ids
  Activity.change fun r => if stopped = 0 then r else r.count (·.countCulled stopped)
  return stopped

/-- End the kernels that have been idle for a time. -/
def cullIdle (millis : Nat) : Activity (Registry S) Nat := do
  let r ← Activity.look
  cull (r.fleet.idle millis)

/-- End idle kernels: those that are given, or those that have been idle for a time. -/
def look (millis : Nat) : (given? : Option (List String)) → Activity (Registry S) Nat
  | none => cullIdle millis
  | some ids => cull ids

end Registry

end KernelGate
