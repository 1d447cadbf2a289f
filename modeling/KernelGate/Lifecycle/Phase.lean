/-!
# The phases of a gateway's life

A gateway starts, serves, is asked to stop and stops; a start that fails leads straight to the end.
A change of phase names the phase that it leaves, and does nothing where the gateway is in another
one, so of several callers only one makes each change.

Main statements: `not_move_stopped` (nothing leaves the last phase), `requestStop_twice` (only the
first request counts).
-/

namespace KernelGate

/-- A phase of a gateway's life. -/
inductive Phase where
  | uninitialized
  | starting
  | serving
  | stopRequested
  | stopped
  deriving DecidableEq, Repr, Inhabited

namespace Phase

/-- The name of a phase. -/
def name : Phase → String
  | uninitialized => "Uninitialized"
  | starting => "Initializing"
  | serving => "Serving"
  | stopRequested => "StopRequested"
  | stopped => "Stopped"

/-- Whether a change from one phase may be made here. -/
def allows (p source : Phase) : Bool := source ≠ stopped && p = source

/-- Change from one phase to another; nothing where the gateway is not in the first, and nothing
leaves the last phase. -/
def move (p source target : Phase) : Phase := if p.allows source then target else p

/-- Whether a request to stop counts. -/
def allowsStop (p : Phase) : Bool := p.allows serving

/-- Ask a serving gateway to stop. -/
def requestStop (p : Phase) : Phase := p.move serving stopRequested

theorem not_move_stopped (source target : Phase) : stopped.move source target = stopped := by
  cases source <;> rfl

theorem requestStop_twice (p : Phase) : p.requestStop.requestStop = p.requestStop := by
  cases p <;> rfl

theorem allowsStop_requestStop (p : Phase) : p.requestStop.allowsStop = false := by
  cases p <;> rfl

end Phase

end KernelGate
