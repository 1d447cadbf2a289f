import KernelGate.Lifecycle.EventLoop
import KernelGate.Lifecycle.Phase

/-!
# Coordinating the stop

Signals and other requests to stop come together here. Only the first one while the gateway serves
counts; it does nothing by itself, but schedules a callback that closes the listener and stops the
event loop. A hang-up never counts, and of several interrupts only the first.

Main statement: `stop_of_not_serving` (a request outside the serving phase changes nothing).
-/

namespace KernelGate

/-- What the stop callback does to the listener. -/
inductive ListenerEffect where
  | stopAccepting
  deriving DecidableEq, Repr, Inhabited

/-- The phase, the event loop, and whether an interrupt has come. -/
structure Coordinator where
  phase : Phase
  loop : EventLoop ListenerEffect
  interrupted : Bool

namespace Coordinator

/-- The start of a gateway's life. -/
def initial : Coordinator := ⟨.uninitialized, .empty, false⟩

instance : Inhabited Coordinator := ⟨initial⟩

/-- The callback that stops the gateway. -/
def stopCallback : LoopCallback ListenerEffect := [.emit .stopAccepting, .stop]

/-- Ask the gateway to stop. -/
def stop (c : Coordinator) : Coordinator :=
  if c.phase.allowsStop then
    { c with phase := c.phase.requestStop, loop := c.loop.schedule stopCallback }
  else c

/-- The terminal is gone: the gateway goes on. -/
def hangUp (c : Coordinator) : Coordinator := c

/-- The gateway is told to end. -/
def terminate (c : Coordinator) : Coordinator := c.stop

/-- The gateway is interrupted; only the first time counts. -/
def interrupt (c : Coordinator) : Coordinator :=
  if c.interrupted then c else { c with interrupted := true }.stop

/-- Change from one phase to another. -/
def move (c : Coordinator) (source target : Phase) : Coordinator :=
  { c with phase := c.phase.move source target }

/-- Enter the last phase. -/
def finish (c : Coordinator) : Coordinator := { c with phase := .stopped }

/-- Run what waits on the event loop. -/
def runLoop (c : Coordinator) : Coordinator := { c with loop := c.loop.run }

/-- Run the callbacks that wait on the event loop now. -/
def drain (c : Coordinator) : Coordinator := { c with loop := c.loop.drain }

theorem stop_of_not_serving {c : Coordinator} (h : c.phase ≠ .serving) : c.stop = c := by
  have h1 : c.phase.allowsStop = false := by
    cases hp : c.phase <;> simp_all [Phase.allowsStop, Phase.allows]
  simp [stop, h1]

end Coordinator

end KernelGate
