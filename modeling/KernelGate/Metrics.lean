/-!
# Figures about the run

What the gateway counts for its operators. A figure that was never touched is not shown.
-/

namespace KernelGate

/-- Why a launch is refused. -/
inductive Refusal where
  | unauthorized
  | gatewayFull
  | userFull
  deriving DecidableEq, Repr, Inhabited

/-- The label of a refusal. -/
def Refusal.label : Refusal → String
  | .unauthorized => "unauthorized"
  | .gatewayFull => "max_kernels"
  | .userFull => "max_kernels_per_user"

/-- Figures about the run. -/
structure Metrics where
  /-- Running kernels, as last set. -/
  active? : Option Nat
  unauthorized : Nat
  gatewayFull : Nat
  userFull : Nat
  recovered : Nat
  dropped : Nat
  culled : Nat
  deriving DecidableEq, Repr

namespace Metrics

/-- Nothing has happened yet. -/
def zero : Metrics := ⟨none, 0, 0, 0, 0, 0, 0⟩

instance : Inhabited Metrics := ⟨zero⟩

/-- Launches refused for a reason. -/
def refused (m : Metrics) : Refusal → Nat
  | .unauthorized => m.unauthorized
  | .gatewayFull => m.gatewayFull
  | .userFull => m.userFull

/-- Count a refused launch. -/
def countRefusal (m : Metrics) : Refusal → Metrics
  | .unauthorized => { m with unauthorized := m.unauthorized + 1 }
  | .gatewayFull => { m with gatewayFull := m.gatewayFull + 1 }
  | .userFull => { m with userFull := m.userFull + 1 }

/-- Set the number of running kernels. -/
def setActive (m : Metrics) (n : Nat) : Metrics := { m with active? := some n }

/-- Count a session that was taken over. -/
def countRecovered (m : Metrics) : Metrics := { m with recovered := m.recovered + 1 }

/-- Count a session that could not be taken over. -/
def countDropped (m : Metrics) : Metrics := { m with dropped := m.dropped + 1 }

/-- Count kernels that were culled. -/
def countCulled (m : Metrics) (n : Nat) : Metrics := { m with culled := m.culled + n }

/-- The figures that have been touched, by their names. -/
def entries (m : Metrics) : List (String × Nat) :=
  let gauge := m.active?.toList.map fun n => ("gateway_kernels_active", n)
  let label := fun (figure key value : String) =>
    figure ++ "\x7b" ++ key ++ "=" ++ value ++ "\x7d"
  let refusals := [Refusal.unauthorized, .gatewayFull, .userFull].map fun r =>
    (label "gateway_launch_rejected_total" "reason" r.label, m.refused r)
  let counters := refusals ++
    [(label "gateway_sessions_recovered_total" "outcome" "recovered", m.recovered),
     (label "gateway_sessions_recovered_total" "outcome" "dropped", m.dropped),
     ("gateway_kernels_culled_total", m.culled)]
  gauge ++ counters.filter fun e => e.2 ≠ 0

theorem refused_countRefusal (m : Metrics) (r s : Refusal) :
    (m.countRefusal r).refused s = m.refused s + if s = r then 1 else 0 := by
  cases r <;> cases s <;> rfl

end Metrics

end KernelGate
