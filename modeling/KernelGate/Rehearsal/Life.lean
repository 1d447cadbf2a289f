import KernelGate.Lifecycle.Serving
import KernelGate.Rehearsal.Stage

/-!
# Rehearsals of a whole life

A gateway rehearsed from its start to its end: it is started, serves, is asked to stop, and is
waited for. A gateway that serves sees to its own end whenever someone waits, be it for the launcher
or for that end; what others have asked of the launcher by then is answered in its own time.
-/

namespace KernelGate

/-- How far the serving of a gateway has come. -/
inductive Service where
  | idle
  /-- It could not begin. -/
  | refused (e : Fault)
  /-- It goes on until the event loop ends. -/
  | open
  /-- The kernels are being ended: when this goes on, if ever, and how. -/
  | closing (wake? : Option Nat) (rest : Activity (Gateway ScriptedStore) Unit)
  | done

/-- What a gateway is to be made of, and what has become of it. -/
structure LifeRehearsal where
  config : Config
  parts : Parts ScriptedStore
  /-- What opening the listener comes to. -/
  listener : Result Unit
  launcher : StageLauncher
  /-- The phase, as long as there is no gateway. -/
  control : Coordinator
  stage? : Option (Rehearsal StageLauncher (Gateway ScriptedStore))
  /-- Whether the gateway has been started. -/
  started : Bool
  service : Service

namespace LifeRehearsal

/-- The beginning of a rehearsal. -/
def new (config : Config) (parts : Parts ScriptedStore) (listener : Result Unit)
    (launcher : StageLauncher) : LifeRehearsal :=
  ⟨config, parts, listener, launcher, .initial, none, false, .idle⟩

/-- The phase that the life is in. -/
def phase (l : LifeRehearsal) : Phase :=
  match l.stage? with
  | some r => r.state.control.phase
  | none => l.control.phase

/-- Change the phase and the requests to stop. -/
def onControl (l : LifeRehearsal) (f : Coordinator → Coordinator) : LifeRehearsal :=
  match l.stage? with
  | some r => { l with stage? := some { r with state.control := f r.state.control } }
  | none => { l with control := f l.control }

/-- A request to stop, which only a started gateway hears. -/
def request (l : LifeRehearsal) (f : Coordinator → Coordinator) : LifeRehearsal :=
  if l.started then l.onControl f else l

/-- Go on with the end of serving from a time on, up to a last moment if there is one. -/
def goOn (last? : Option Nat) (r : Rehearsal StageLauncher (Gateway ScriptedStore)) (time : Nat)
    (rest : Activity (Gateway ScriptedStore) Unit) (l : LifeRehearsal) : LifeRehearsal :=
  match Rehearsal.play last? rest time r with
  | (r, .finished time _) =>
    { l with stage? := some { r with now := max r.now time }, service := .done }
  | (r, .waiting wake? rest) => { l with stage? := some r, service := .closing wake? rest }

/-- Let a gateway that serves see to its own end, up to a last moment if there is one. -/
def attend (last? : Option Nat) (l : LifeRehearsal) : LifeRehearsal :=
  match l.stage?, l.service with
  | some r, .open =>
    let r := { r with state := r.state.runLoop }
    if r.state.loopEnded then l.goOn last? r r.now Gateway.close else { l with stage? := some r }
  | some r, .closing (some wake) rest =>
    if last?.any (· < wake) then l else l.goOn last? r wake rest
  | _, _ => l

/-- Let time pass until a moment. -/
def reach (time : Nat) (l : LifeRehearsal) : LifeRehearsal :=
  let l := l.attend (some time)
  { l with stage? := l.stage?.map fun r => { r with now := time } }

/-- Carry out an activity of the gateway; no value if it waits forever or there is no gateway. -/
def perform {α : Type} :
    Activity (Gateway ScriptedStore) α → LifeRehearsal → LifeRehearsal × Option α
  | .done a, l => (l, some a)
  | .step change next, l =>
    match l.stage? with
    | none => (l, none)
    | some r => perform (next r.state) { l with stage? := some { r with state := change r.state } }
  | .call c limit next, l =>
    match l.stage? with
    | none => (l, none)
    | some r =>
      let (launcher, conduct) := Launcher.respond r.launcher c
      let l := { l with stage? := some { r with launcher } }
      match conduct.waiting limit with
      | none => (l, none)
      | some (after, reply) =>
        perform (next reply) (if after = 0 then l else l.reach (r.now + after))

/-- Start the gateway. -/
def start (l : LifeRehearsal) : LifeRehearsal × Option (Result Unit) :=
  if l.stage?.isSome then (l, none)
  else
    match Gateway.prepare l.config l.parts l.control with
    | (control, .error e) => ({ l with control }, some (.error e))
    | (control, .ok g) =>
      let (l, x) := { l with control, stage? := some (.new g l.launcher) }.perform Gateway.bring
      ({ l with started := (x.map Except.toBool).getD false }, x)

/-- Begin to serve. -/
def serve (l : LifeRehearsal) : LifeRehearsal × Option (Result Unit) :=
  if !l.started then (l, none)
  else
    match l.perform (Gateway.beginServing l.listener) with
    | (l, some (.error e)) => ({ l with service := .refused e }, some (.error e))
    | (l, some (.ok ())) => ({ l with service := .open }, some (.ok ()))
    | (l, none) => (l, none)

/-- Wait for the end of serving; none if it does not come. -/
def wait (l : LifeRehearsal) : LifeRehearsal × Option (Result Unit) :=
  let l := l.attend none
  match l.service with
  | .refused e => (l, some (.error e))
  | .done => (l, some (.ok ()))
  | _ => (l, none)

/-- Launch a kernel of the standard spec. -/
def startKernel (params : LaunchParams) (l : LifeRehearsal) :
    LifeRehearsal × Option (Result SessionRecord) :=
  l.perform (Gateway.onRegistry (Registry.startKernel .python params))

/-- Let the launcher follow another script. -/
def setScript (script : LauncherScript) (l : LifeRehearsal) : LifeRehearsal :=
  { l with
    launcher := l.launcher.setScript script
    stage? := l.stage?.map fun r => { r with launcher := r.launcher.setScript script } }

/-- The store, if it could be opened. -/
def store? (l : LifeRehearsal) : Option ScriptedStore :=
  match l.stage? with
  | some r => some r.state.registry.store
  | none => l.parts.store.toOption

/-- What there was to see since one looked last. -/
def look (l : LifeRehearsal) : LifeRehearsal × StageEvents :=
  match l.stage? with
  | none => (l, .of [] (.new (.memory ∅) default) [])
  | some r =>
    let (launcher, calls) := r.launcher.take
    let store := r.state.registry.store
    ({ l with
        stage? := some { r with
          launcher
          state.registry.store := { store with persisted := [], removed := [] } } },
      .of calls store [])

end LifeRehearsal

end KernelGate
