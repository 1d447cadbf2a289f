import KernelGate.Lifecycle.Culling
import KernelGate.Lifecycle.Startup

/-!
# Serving and stopping

A started gateway serves once its listener is open. It stops when its event loop has been asked to:
it ends all kernels and enters the last phase. A gateway that cannot begin to serve ends the kernels
that it has launched itself.
-/

namespace KernelGate

namespace Gateway

variable {S : Type} [SessionStore S]

/-- The culling that goes on while the gateway serves. -/
def culling? (g : Gateway S) : Option Culling :=
  if g.tracksUse then Culling.ofConfig g.config else none

/-- Begin to serve, if the listener is open and the gateway has been started. -/
def beginServing (listener : Result Unit) : Activity (Gateway S) (Result Unit) := do
  match listener with
  | .error e => giveUp e
  | .ok () =>
    let g ← Activity.look
    if g.control.phase.allows .starting then
      Activity.change fun (g : Gateway S) => { g with control := g.control.move .starting .serving }
      return .ok ()
    else giveUp (.phase (.cannotServe g.control.phase.name))

/-- Run what waits on the event loop. -/
def runLoop (g : Gateway S) : Gateway S := { g with control := g.control.runLoop }

/-- Whether the event loop has come to its end. -/
def loopEnded (g : Gateway S) : Bool := g.control.loop.stopped

/-- Stop: end all kernels, and enter the last phase. -/
def close : Activity (Gateway S) Unit := do
  onRegistry Registry.shutdownAll
  Activity.change finish

/-- Answer a request of a client. -/
def answer (r : Request) : Activity (Gateway S) Response := do
  let g ← Activity.look
  onRegistry (g.api.answer r)

end Gateway

end KernelGate
