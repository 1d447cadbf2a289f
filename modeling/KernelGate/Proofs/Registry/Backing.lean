import KernelGate.Proofs.Fleet.Backing
import KernelGate.Proofs.Registry.Chore

/-!
# Slots behind all that a registry does

The operations of a registry, and the answers to requests, keep a slot for each kernel and for each
launch that is under way.

Main statements: `guards_of_errand`, `guards_startSessions` and `guards_answer`.
-/

namespace KernelGate

namespace Registry

open Activity

variable {S α : Type} {rules : FleetRules} {held : Multiset String}

/-- There are slots for all kernels of the fleet and for the launches of these users. -/
def Backed (rules : FleetRules) (held : Multiset String) (r : Registry S) : Prop :=
  r.fleet.Backed rules held

/-- What an operation keeps on the fleet, the registry keeps. -/
theorem guards_onFleet {a : Activity Fleet α}
    (h : a.Guards (Fleet.Backed rules) rules.Permits held) :
    (onFleet (S := S) a).Guards (Backed rules) rules.Permits held := by
  refine Guards.zoom ?_ ?_ h
  · intro r held hr
    exact hr
  · intro r f now before hfleet _
    exact hfleet

/-- Figures and the time have no part in it. -/
theorem Backed.aside {r r' : Registry S} (h : r.Backed rules held) (haside : Aside r r') :
    r'.Backed rules held := by
  obtain ⟨metrics, now, rfl⟩ := haside
  exact Fleet.Backed.congr h ⟨rfl, rfl, rfl⟩

variable [SessionStore S]

/-- The slot of a launch is the fleet's business; a record is kept without touching it. -/
theorem guards_startKernel (rules : FleetRules) (spec : KernelSpec) (p : LaunchParams) :
    (startKernel (S := S) spec p).Guards (Backed rules) rules.Permits 0 := by
  refine (guards_onFleet (Fleet.guards_create rules spec p)).bind fun created => ?_
  cases created with
  | error e => exact .done _
  | ok h =>
    refine (guards_atOnce fun r others hr => ?_).bind fun record => .done _
    rw [zero_add] at hr
    exact hr

theorem guards_shutdownKernel (rules : FleetRules) (id : String) :
    (shutdownKernel (S := S) id).Guards (Backed rules) rules.Permits 0 := by
  refine (guards_onFleet (Fleet.guards_shutdown rules id)).bind fun ended => ?_
  cases ended with
  | error e => exact .done _
  | ok h =>
    refine guards_change_bind (fun r others hr => ?_) (.done _)
    unfold Backed
    rw [fleet_forget]
    exact hr

/-- An errand holds slots only while one of its launches waits. -/
theorem guards_of_errand {a : Activity (Registry S) α} (ha : Errand a) :
    a.Guards (Backed rules) rules.Permits 0 := by
  induction ha with
  | done x => exact .done x
  | aside haside _ ih =>
    exact .step (fun _ => 0) (fun r others hr => hr.aside (haside r)) fun r _ _ => ih r
  | start _ ih => exact (guards_startKernel rules _ _).bind ih
  | stop _ ih => exact (guards_shutdownKernel rules _).bind ih

theorem guards_recoverEach (rules : FleetRules) (limit : Nat) (found : List SessionRecord) :
    (recoverEach (S := S) limit found).Guards (Backed rules) rules.Permits 0 := by
  induction found with
  | nil => exact .done _
  | cons record rest ih =>
    refine (guards_onFleet (Fleet.guards_reattach rules _ _)).bind fun outcome => ?_
    cases outcome with
    | ok _ =>
      exact guards_change_bind (fun r others hr => hr.aside ⟨_, _, rfl⟩) (ih.bind fun _ => .done _)
    | error e =>
      refine guards_change_bind (fun r others hr => ?_) (ih.bind fun _ => .done _)
      have hcounted : (r.count Metrics.countDropped).Backed rules others := hr.aside ⟨_, _, rfl⟩
      exact hcounted

/-- Kernels are taken over with slots of their own. -/
theorem guards_startSessions (rules : FleetRules) :
    (startSessions (S := S)).Guards (Backed rules) rules.Permits 0 := by
  refine guards_look_bind fun r => (guards_atOnce fun r others hr => ?_).bind fun found =>
    guards_recoverEach rules _ _
  rw [zero_add] at hr
  exact hr

/-! ## Requests

An answer is put together from errands and from looks at the registry, so it keeps the slots as
these do. -/

omit [SessionStore S] in
theorem guards_lookAt (rules : FleetRules) (k : KernelApi) (id : String) :
    (Api.lookAt (S := S) k id).Guards (Backed rules) rules.Permits 0 := by
  refine guards_look_bind fun r => ?_
  cases hget : r.fleet.get? id with
  | none => exact .done _
  | some h =>
    cases hk : k.tracksUse with
    | true =>
      refine guards_change_bind (fun r others hr => ?_) (.done _)
      exact Fleet.Backed.touch hr id
    | false => exact .done _

/-- To answer a request keeps a slot for each kernel and each launch. -/
theorem guards_answer (rules : FleetRules) (api : Api) (request : Request) :
    (api.answer (S := S) request).Guards (Backed rules) rules.Permits 0 := by
  refine Api.answer_cases (fun x => .done x) (fun a ha f _ => ?_) (fun k => ?_) (fun id => ?_)
  · cases ha with
    | list => exact (guards_look_bind fun _ => .done _).bind fun _ => .done _
    | lookAt k id => exact (guards_lookAt rules k id).bind fun _ => .done _
  · exact guards_of_errand (errand_start k request)
  · exact guards_of_errand (errand_delete id)

end Registry

end KernelGate
