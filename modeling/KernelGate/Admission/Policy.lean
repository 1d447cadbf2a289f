import KernelGate.Dict

/-!
# Who may start kernels

A user in the deny set is refused. If the allow set is not empty, a user outside it is refused
too. Names are compared as they are.

Main statement: `Policy.admits_iff`.
-/

namespace KernelGate

/-- The sets that decide who may start kernels. -/
structure Policy where
  denied : NameSet
  allowed : NameSet
  deriving DecidableEq

namespace Policy

/-- Whether a user may start kernels. -/
def admits (p : Policy) (user : String) : Bool :=
  !p.denied.contains user && (p.allowed.isEmpty || p.allowed.contains user)

theorem admits_iff {p : Policy} {user : String} :
    p.admits user = true ↔
      user ∉ p.denied.keys ∧ (p.allowed = ∅ ∨ user ∈ p.allowed.keys) := by
  have h : p.allowed.isEmpty = true ↔ p.allowed = ∅ := by
    constructor
    · intro h
      apply Dict.ext_get?
      intro k
      have : p.allowed.toList = [] := List.isEmpty_iff.1 h
      rw [Dict.get?, this]; rfl
    · intro h; rw [h]; rfl
  simp [admits, Dict.mem_keys, h]

/-- Kernels may run as the gateway's own user: users are impersonated and that user is not
denied. -/
def impersonationUnsafe (p : Policy) (impersonation : Bool) (gatewayUser : String) : Bool :=
  impersonation && !p.denied.contains gatewayUser

end Policy

/-- The login variables, in the order in which they are asked for the user's name. -/
def loginVariables : List String := ["LOGNAME", "USER", "LNAME", "USERNAME"]

/-- The user who runs the gateway: the first login variable that is set and not empty. -/
def loginUser (env : Dict String) : String :=
  (loginVariables.findSome? fun v => (env.get? v).filter (· ≠ "")).getD "unknown"

end KernelGate
