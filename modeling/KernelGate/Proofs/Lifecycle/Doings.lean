import KernelGate.Proofs.Lifecycle.Serving
import KernelGate.Proofs.Registry.Backing

/-!
# All that a gateway does

From the moment that it has been put together, a gateway makes its start, begins to serve, does what
others ask and ends its kernels, while time passes and its phase changes. All of this keeps a slot
for each kernel and each launch, and asks the launcher for launches that are let through, even if
any of it were to overlap.

Main statements: `guards_of_does`, from the lemmas on what a gateway does; they serve for every
invariant that is one of the registry and of what the registry has no part in (`OfRegistry`).
-/

namespace KernelGate

open Activity Registry

namespace Gateway

variable {S : Type} {rules : FleetRules} {Inv : Multiset String → Gateway S → Prop}
  {held : Multiset String}

/-- An invariant of gateways by which there are slots for kernels and launches, and which no change
of the registry breaks that keeps such slots. -/
structure OfRegistry (rules : FleetRules) (Inv : Multiset String → Gateway S → Prop) : Prop where
  part : ∀ {g : Gateway S} {held : Multiset String}, Inv held g → g.registry.Backed rules held
  put : ∀ {g : Gateway S} {r : Registry S} {held now : Multiset String}, r.Backed rules now →
    Inv held g → Inv now { g with registry := r }

/-- What the registry keeps, the gateway keeps, as long as its invariant speaks of the registry by
those slots only. -/
theorem guards_onRegistry {α : Type} {a : Activity (Registry S) α} (hinv : OfRegistry rules Inv)
    (h : a.Guards (Registry.Backed rules) rules.Permits held) :
    (onRegistry a).Guards Inv rules.Permits held := by
  refine Guards.zoom ?_ ?_ h
  · intro g held hg
    exact hinv.part hg
  · intro g r now before hr hg
    exact hinv.put hr hg

variable [SessionStore S]

/-- Every request of a client is answered by the registry, or by what is at hand. -/
theorem guards_gatewayAnswer (hinv : OfRegistry rules Inv) (r : Request) :
    (Gateway.answer (S := S) r).Guards Inv rules.Permits 0 :=
  guards_look_bind fun _ => guards_onRegistry hinv (Registry.guards_answer _ _ r)

/-- So are all the things that others have a gateway do. -/
theorem guards_asked (hinv : OfRegistry rules Inv) {a : Activity (Gateway S) Unit} (ha : Asks a) :
    a.Guards Inv rules.Permits 0 := by
  cases ha with
  | request r => exact (guards_gatewayAnswer hinv r).bind fun _ => .done _
  | culling millis =>
    refine (guards_onRegistry hinv (guards_look_bind fun r => ?_)).bind fun _ => .done _
    exact guards_of_errand (errand_cull _)

/-- To end some of the kernels, which the registry is asked for first. -/
theorem guards_ending (hinv : OfRegistry rules Inv) (ids : Registry S → List String) :
    (onRegistry (look.bind fun r => (shutdownEach (ids r)).bind fun _ => .done ())).Guards Inv
      rules.Permits 0 :=
  guards_onRegistry hinv (guards_look_bind fun _ =>
    guards_of_errand ((errand_shutdownEach _).bind fun _ => .done _))

theorem guards_shutdownAll (hinv : OfRegistry rules Inv) :
    (onRegistry (S := S) shutdownAll).Guards Inv rules.Permits 0 :=
  guards_ending hinv (·.fleet.kernels.keys)

/-! ## From the start to the end

The gateway's own task does nothing besides that touches slots. -/

/-- There are slots for all kernels and for the launches of these users. -/
def Backed (rules : FleetRules) (held : Multiset String) (g : Gateway S) : Prop :=
  g.registry.Backed rules held

omit [SessionStore S] in
theorem ofRegistry_backed : OfRegistry rules (Backed (S := S) rules) where
  part := fun hg => hg
  put := fun hr _ => hr

/-- Kernels that are taken back give back their slots. -/
theorem guards_giveUp (e : Fault) :
    (giveUp (S := S) e).Guards (Backed rules) rules.Permits 0 := by
  refine (guards_ending ofRegistry_backed (·.started.keys)).bind fun _ => ?_
  exact guards_change_bind (fun _ _ hg => hg) (.done _)

/-- Taking kernels over and launching those that wait for clients are operations of the registry. -/
theorem guards_bring : (bring (S := S)).Guards (Backed rules) rules.Permits 0 := by
  refine (guards_onRegistry ofRegistry_backed (guards_startSessions _)).bind fun _ =>
    guards_look_bind fun g => ?_
  cases g.openApi with
  | error e => exact guards_giveUp _
  | ok api =>
    refine guards_change_bind (fun _ _ hg => hg) ?_
    refine (guards_onRegistry ofRegistry_backed
      (guards_of_errand (errand_prespawnAll _ _))).bind fun outcome => ?_
    cases outcome with
    | error e => exact guards_giveUp e
    | ok _ => exact .done _

theorem guards_beginServing (listener : Result Unit) :
    (beginServing (S := S) listener).Guards (Backed rules) rules.Permits 0 := by
  cases listener with
  | error e => exact guards_giveUp e
  | ok _ =>
    refine guards_look_bind fun g => ?_
    split
    · exact guards_change_bind (fun _ _ hg => hg) (.done _)
    · exact guards_giveUp _

/-- One thing that a gateway does, from the moment that it has been put together. -/
inductive Does : Activity (Gateway S) Unit → Prop where
  | start : Does (bring.bind fun _ => .done ())
  | serve (listener : Result Unit) : Does ((beginServing listener).bind fun _ => .done ())
  | asked {a : Activity (Gateway S) Unit} : Asks a → Does a
  | passes (millis : Nat) :
      Does (change fun g => { g with registry := g.registry.later millis })
  /-- Its phase or its event loop changes in whatever way. -/
  | moves (f : Coordinator → Coordinator) : Does (change fun g => { g with control := f g.control })
  | close : Does close

/-- Whatever a gateway does keeps a slot for each kernel and each launch, and asks the launcher for
launches that are let through. -/
theorem guards_of_does {a : Activity (Gateway S) Unit} (ha : Does a) :
    a.Guards (Backed rules) rules.Permits 0 := by
  cases ha with
  | start => exact guards_bring.bind fun _ => .done _
  | serve listener => exact (guards_beginServing listener).bind fun _ => .done _
  | asked hasked => exact guards_asked ofRegistry_backed hasked
  | passes millis =>
    refine .step (fun _ => 0) (fun g others hg => ?_) fun _ _ _ => .done _
    exact Registry.Backed.aside hg ⟨_, _, rfl⟩
  | moves f => exact .step (fun _ => 0) (fun g others hg => hg) fun _ _ _ => .done _
  -- To end all kernels and to note that they have ended are two steps, with calls in between.
  | close =>
    refine (guards_shutdownAll ofRegistry_backed).bind fun _ => ?_
    exact .step (fun _ => 0) (fun g others hg => hg) fun _ _ _ => .done _

end Gateway

end KernelGate
