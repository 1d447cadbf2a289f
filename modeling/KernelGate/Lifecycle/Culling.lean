import KernelGate.Config

/-!
# Culling in the background

While the gateway serves, kernels that have been idle for a time are looked for at regular
intervals. The interval is never shorter than a second.
-/

namespace KernelGate

/-- When to look for idle kernels, and how long they must have been idle, in milliseconds. -/
structure Culling where
  idle : Nat
  interval : Nat
  deriving DecidableEq, Repr

namespace Culling

/-- The shortest time between two looks. -/
def shortest : Nat := 1000

/-- Look for kernels that have been idle for a time, at intervals of a second or more. -/
def every (idle interval : Nat) : Culling := ⟨idle, max interval shortest⟩

/-- The culling that a configuration asks for. -/
def ofConfig (c : Config) : Option Culling :=
  c.cullIdle?.map fun seconds => every (seconds * 1000) (c.cullIntervalSeconds * 1000)

/-- The looks that fall due from one that is due at a time, up to a later time. -/
def dueCount (c : Culling) (next limit : Nat) : Nat :=
  if next ≤ limit then (limit - next) / c.interval + 1 else 0

end Culling

end KernelGate
