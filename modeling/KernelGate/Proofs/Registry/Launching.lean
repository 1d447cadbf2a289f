import KernelGate.Proofs.Fleet.Naming
import KernelGate.Proofs.Registry.Calls
import KernelGate.Proofs.Registry.Errand

/-!
# A launch before and after its call

A launch calls the launcher once, when it has its slot. It then waits, and others may do whatever
they like; it goes on from the state in which the answer finds it. All the while it is a launch for
the user for whom it was let through.

Main statements: `Fleet.underway_of_advance` and `underway_of_advance` (whenever the launcher is
called).
-/

namespace KernelGate

open Activity

variable {S : Type} {spec : KernelSpec} {p : LaunchParams} {call : LauncherCall}
  {limit : Option Nat}

namespace Fleet

variable {f f' : Fleet}

/-- What has happened, by these rules, when a launch calls the launcher. -/
structure Admits (rules : FleetRules) (f f' : Fleet) (spec : KernelSpec) (p : LaunchParams)
    (request : LaunchRequest) : Prop where
  grants : rules.Grants spec p request
  id : request.handle.id = f.supply.kernelId f.named
  /-- A slot of the user is free, and it is taken. -/
  slot : f.ledger.acquire? (rules.userOf p) = some f'.ledger
  kernels : f'.kernels = f.kernels

/-- A launch has called the launcher, and goes on like this. -/
structure Underway (rules : FleetRules) (f f' : Fleet) (spec : KernelSpec) (p : LaunchParams)
    (request : LaunchRequest) (next : Reply → Activity Fleet (Result KernelHandle)) : Prop where
  admits : Admits rules f f' spec p request
  started : ∀ g, (next (some (.ok ()))).advance g =
    (g.track ⟨request.handle, g.now⟩, .finished (.ok request.handle))
  failed : ∀ g e, (next (some (.error e))).advance g =
    ({ g with ledger := g.ledger.release (rules.userOf p) }, .finished (.error e))

/-- What a launch holds when it calls the launcher: a slot of the user for whom it was let through,
and nothing else of the kernel's. -/
theorem admits_of_admitLaunch {request : LaunchRequest}
    (h : f.admitLaunch spec p = (f', .ok request)) : Admits f.rules f f' spec p request := by
  obtain ⟨ports, -, -, hslot, -, hprepare⟩ := admitLaunch_ok h
  obtain ⟨⟨-, hkernels, hledger⟩, -, -, hid⟩ := becomes_of_admitLaunch h
  have hgrants := grants_of_admitLaunch h
  refine ⟨hgrants, hid, ?_, hkernels⟩
  have hroom : f.ledger.isFull (f.rules.userOf p) = false := hslot
  rw [hledger, hgrants.user, Ledger.acquire?, hroom]
  rfl

/-- A launch is refused at once, or comes to its call. -/
theorem advance_create (f : Fleet) (spec : KernelSpec) (p : LaunchParams) :
    (create spec p).advance f =
      match f.admitLaunch spec p with
      | (g, .error e) => (g, .finished (.error e))
      | (g, .ok request) => (g, .waiting (.launch request) none fun reply =>
          atOnce (settleLaunch · request (reply.getD (.error (.recovery .timedOut))))) := by
  show Activity.advance (Activity.bind (.done (f.admitLaunch spec p).2) _)
    (f.admitLaunch spec p).1 = _
  rcases f.admitLaunch spec p with ⟨g, e | request⟩
  · rfl
  · rfl

/-- Whenever a launch calls the launcher, it has been let through, and goes on as it should. -/
theorem underway_of_advance {next : Reply → Activity Fleet (Result KernelHandle)}
    (h : (create spec p).advance f = (f', .waiting call limit next)) :
    ∃ request, call = .launch request ∧ limit = none ∧
      Underway f.rules f f' spec p request next := by
  rw [advance_create] at h
  rcases hadmitted : f.admitLaunch spec p with ⟨g, e | request⟩
  · rw [hadmitted] at h
    cases h
  · rw [hadmitted] at h
    cases h
    have hadmits := admits_of_admitLaunch hadmitted
    refine ⟨request, rfl, rfl, hadmits, fun g => rfl, fun g e => ?_⟩
    rw [← hadmits.grants.user]
    rfl

end Fleet

namespace Registry

variable [SessionStore S] {r r' : Registry S}

/-- A launch with a record has called the launcher, and goes on like this. -/
structure Underway (rules : FleetRules) (r r' : Registry S) (spec : KernelSpec) (p : LaunchParams)
    (request : LaunchRequest)
    (next : Reply → Activity (Registry S) (Result SessionRecord)) : Prop where
  admits : Fleet.Admits rules r.fleet r'.fleet spec p request
  store : r'.store = r.store
  /-- The kernel is tracked, and a record of it is kept. -/
  started : ∀ s : Registry S, ∃ (s' : Registry S) (session : String),
    (next (some (.ok ()))).advance s = (s', .finished (.ok ⟨session, request.handle, p⟩)) ∧
      s'.fleet.kernels =
        s.fleet.kernels.insert request.handle.id ⟨request.handle, s.fleet.now⟩ ∧
      s'.fleet.ledger = s.fleet.ledger ∧
      s'.store = (SessionStore.persist s.store ⟨session, request.handle, p⟩).1
  failed : ∀ (s : Registry S) (e : Fault), ∃ s' : Registry S,
    (next (some (.error e))).advance s = (s', .finished (.error e)) ∧
      s'.fleet.kernels = s.fleet.kernels ∧
      s'.fleet.ledger = s.fleet.ledger.release (rules.userOf p) ∧ s'.store = s.store

/-- A launch with a record is refused at once, or comes to its call. -/
theorem advance_startKernel (r : Registry S) (spec : KernelSpec) (p : LaunchParams) :
    (startKernel spec p).advance r =
      match r.fleet.admitLaunch spec p with
      | (g, .error e) => ({ r with fleet := g }, .finished (.error e))
      | (g, .ok request) => ({ r with fleet := g }, .waiting (.launch request) none
          (Post.starting request p .done).waiting.next) := by
  rw [← bind_done (startKernel spec p), startKernel_bind]
  show Activity.advance (Activity.bind (.done (r.fleet.admitLaunch spec p).2) _)
    { r with fleet := (r.fleet.admitLaunch spec p).1 } = _
  rcases r.fleet.admitLaunch spec p with ⟨g, e | request⟩
  · rfl
  · rfl

/-- Whenever a launch with a record calls the launcher, it has been let through, and goes on as it
should. -/
theorem underway_of_advance {next : Reply → Activity (Registry S) (Result SessionRecord)}
    (h : (startKernel spec p).advance r = (r', .waiting call limit next)) :
    ∃ request, call = .launch request ∧ limit = none ∧
      Underway r.fleet.rules r r' spec p request next := by
  rw [advance_startKernel] at h
  rcases hadmitted : r.fleet.admitLaunch spec p with ⟨g, e | request⟩
  · rw [hadmitted] at h
    cases h
  · rw [hadmitted] at h
    cases h
    have hadmits := Fleet.admits_of_admitLaunch hadmitted
    refine ⟨request, rfl, rfl, hadmits, rfl, fun s => ⟨_, _, rfl, rfl, rfl, rfl⟩, fun s e => ?_⟩
    refine ⟨_, rfl, rfl, ?_, rfl⟩
    rw [← hadmits.grants.user]
    rfl

end Registry

end KernelGate
