import KernelGate.Proofs.Fleet.Conservation
import KernelGate.Proofs.Registry.Sequential

/-!
# Errands in turn

All that a gateway has its registry do once it serves is put together of launches, of shutdowns, and
of steps that change nothing but figures. Any number of such errands can be under way at once, and
each waits at one place, its `Post`: for a launch, or for a shutdown.

Main statements: `errand_of_registered` (the operations of a gateway are errands);
`startKernel_bind` and `shutdownKernel_bind` say where an errand comes to a halt,
`enter_starting_ok`, `enter_stopping_ok` and the lemmas beside them how it goes on.
-/

namespace KernelGate

namespace Registry

open Activity

variable {S α β : Type}

/-! ## Errands

An errand is an activity in normal form: the launches and shutdowns in it are kept whole, so that
its waits can be told apart, and everything between them is a step that others need not care about.
-/

/-- Nothing has changed but figures and the time. -/
def Aside (r r' : Registry S) : Prop :=
  ∃ metrics now, r' = { r with fleet := { r.fleet with metrics, now } }

theorem aside_refl (r : Registry S) : Aside r r := ⟨_, _, rfl⟩

/-- What the fleet does at once is done before the errand goes on. -/
theorem enter_onFleet_bind {p : Pool (Registry S) α} {g : Fleet} {f : Fleet → Fleet × β}
    {next : β → Activity (Registry S) α} {x : β}
    (h : f p.state.fleet = (g, x)) :
    p.enter ((onFleet (atOnce f)).bind next) =
      Pool.enter ⟨{ p.state with fleet := g }, p.waiting⟩ (next x) := by
  refine Pool.enter_atOnce_bind
    (f := fun r : Registry S => ({ r with fleet := (f r.fleet).1 }, (f r.fleet).2)) ?_
  show ({ p.state with fleet := (f p.state.fleet).1 }, (f p.state.fleet).2) = _
  rw [h]

variable [SessionStore S]

/-- Activities that are put together of launches, shutdowns and steps aside. -/
inductive Errand : Activity (Registry S) α → Prop where
  | done (x : α) : Errand (.done x)
  | aside {f : Registry S → Registry S} {next : Registry S → Activity (Registry S) α} :
      (∀ r, Aside r (f r)) → (∀ r, Errand (next r)) → Errand (.step f next)
  | start {spec : KernelSpec} {p : LaunchParams}
      {next : Result SessionRecord → Activity (Registry S) α} :
      (∀ x, Errand (next x)) → Errand ((startKernel spec p).bind next)
  | stop {id : String} {next : Result Unit → Activity (Registry S) α} :
      (∀ x, Errand (next x)) → Errand ((shutdownKernel id).bind next)

/-- Errands in sequence are an errand. -/
theorem Errand.bind {a : Activity (Registry S) α} {f : α → Activity (Registry S) β}
    (ha : Errand a) (hf : ∀ x, Errand (f x)) : Errand (a.bind f) := by
  induction ha with
  | done x => exact hf x
  | aside hchange _ ih => exact .aside hchange ih
  | start _ ih =>
    rw [Activity.bind_assoc]
    exact .start ih
  | stop _ ih =>
    rw [Activity.bind_assoc]
    exact .stop ih

theorem errand_sure {a : Activity (Registry S) α} (ha : Errand a) : Errand (sure a) :=
  ha.bind fun _ => .done _

/-- Kernels that are ended one after another are shutdowns in sequence. -/
theorem errand_shutdownEach (ids : List String) : Errand (shutdownEach (S := S) ids) := by
  induction ids with
  | nil => exact .done 0
  | cons id rest ih => exact .stop fun _ => ih.bind fun _ => .done _

theorem errand_cull (ids : List String) : Errand (cull (S := S) ids) := by
  refine (errand_shutdownEach ids).bind fun stopped => .aside ?_ fun _ => .done _
  intro r
  split
  · exact aside_refl r
  · exact ⟨_, _, rfl⟩

/-- What a gateway asks of its registry once it serves. -/
def Operation.Registered : Operation → Prop
  | .startKernel _ _ | .shutdownKernel _ | .shutdownAll | .shutdownStarted | .cull _
  | .cullIdle _ => True
  | .create _ _ | .reattach _ _ | .shutdown _ | .touch _ | .startSessions => False

/-- Everything that a gateway has its registry do once it serves is an errand. -/
theorem errand_of_registered {op : Operation} (h : op.Registered) :
    Errand (op.activity (S := S)) := by
  cases op with
  | startKernel spec p => exact .start fun _ => .done _
  | shutdownKernel id =>
    have herrand : Errand ((Registry.shutdownKernel (S := S) id).bind .done) := .stop .done
    rwa [bind_done] at herrand
  | shutdownAll =>
    exact errand_sure (.aside aside_refl fun r => (errand_shutdownEach _).bind fun _ => .done _)
  | shutdownStarted =>
    exact errand_sure (.aside aside_refl fun r => (errand_shutdownEach _).bind fun _ => .done _)
  | cull ids => exact errand_sure (errand_cull ids)
  | cullIdle millis => exact errand_sure (.aside aside_refl fun r => errand_cull _)
  | create _ _ | reattach _ _ | shutdown _ | touch _ | startSessions => exact h.elim

/-! ## Where an errand waits

A launch that begins is refused, and the errand goes on at once, or it waits at a post that knows
the request and what is to follow. In the same way a shutdown finds nothing, or waits. -/

/-- What an errand waits for, and what it goes on with. -/
inductive Post (S α : Type) where
  | starting (request : LaunchRequest) (params : LaunchParams)
      (next : Result SessionRecord → Activity (Registry S) α)
  | stopping (kernel : Tracked) (id : String) (next : Result Unit → Activity (Registry S) α)

namespace Post

/-- Where the fleet has come to with it. -/
def stage : Post S α → Fleet.Stage
  | starting request _ _ => .launching request
  | stopping kernel _ _ => .ending kernel

/-- Whatever it comes to, what follows is an errand again; and a kernel is ended under its own
id. -/
def Orderly : Post S α → Prop
  | starting _ _ next => ∀ x, Errand (next x)
  | stopping kernel id next => kernel.handle.id = id ∧ ∀ x, Errand (next x)

/-- How an errand goes on that was answered. -/
def resume : Post S α → Result Unit → Activity (Registry S) α
  | starting request params next, answer =>
    ((onFleet (atOnce (Fleet.settleLaunch · request answer))).bind fun
      | .error e => .done (.error e)
      | .ok h => (atOnce (enlist · h params)).bind fun record => .done (.ok record)).bind next
  | stopping kernel id next, answer =>
    ((onFleet (atOnce (Fleet.settleShutdown · kernel answer))).bind fun
      | .error e => .done (.error e)
      | .ok _ => (change (forget · id)).bind fun _ => .done (.ok ())).bind next

/-- How an errand waits. -/
def waiting (post : Post S α) : Waiting (Registry S) α :=
  ⟨post.stage.call, none, fun reply => post.resume (reply.getD (.error (.recovery .timedOut)))⟩

end Post

/-- An errand that launches a kernel is admitted or not, and waits if it is. -/
theorem startKernel_bind {spec : KernelSpec} {params : LaunchParams}
    {next : Result SessionRecord → Activity (Registry S) α} :
    (startKernel spec params).bind next =
      (onFleet (atOnce (Fleet.admitLaunch · spec params))).bind fun
        | .error e => next (.error e)
        | .ok request =>
          .call (.launch request) none (Post.starting request params next).waiting.next := by
  show Activity.step _ _ = Activity.step _ _
  congr 1
  funext r
  show Activity.bind (Activity.bind (Activity.zoom _ _ (Activity.bind (.done
    (r.fleet.admitLaunch spec params).2) _)) _) next =
    Activity.bind (.done (r.fleet.admitLaunch spec params).2) _
  cases (r.fleet.admitLaunch spec params).2 with
  | error e => rfl
  | ok request => rfl

/-- An errand that ends a kernel finds it or not, and waits if it does. -/
theorem shutdownKernel_bind {id : String} {next : Result Unit → Activity (Registry S) α} :
    (shutdownKernel id).bind next =
      (onFleet (atOnce (Fleet.beginShutdown · id))).bind fun
        | .error e => next (.error e)
        | .ok kernel =>
          .call (.terminate kernel.handle) none (Post.stopping kernel id next).waiting.next := by
  show Activity.step _ _ = Activity.step _ _
  congr 1
  funext r
  show Activity.bind (Activity.bind (Activity.zoom _ _ (Activity.bind (.done
    (r.fleet.beginShutdown id).2) _)) _) next =
    Activity.bind (.done (r.fleet.beginShutdown id).2) _
  cases (r.fleet.beginShutdown id).2 with
  | error e => rfl
  | ok kernel => rfl

/-! ## Going on

At a post an errand goes on by settling its call in the fleet, then by keeping or forgetting
records, and then with what follows. -/

section

variable {p : Pool (Registry S) α} {g : Fleet}

/-- After a launch that failed no record is kept. -/
theorem enter_starting_error {request : LaunchRequest} {params : LaunchParams}
    {next : Result SessionRecord → Activity (Registry S) α} {answer : Result Unit} {e : Fault}
    (h : p.state.fleet.settleLaunch request answer = (g, .error e)) :
    p.enter ((Post.starting request params next).resume answer) =
      Pool.enter ⟨{ p.state with fleet := g }, p.waiting⟩ (next (.error e)) := by
  have hresume : (Post.starting request params next).resume answer =
      (onFleet (atOnce (Fleet.settleLaunch · request answer))).bind _ := Activity.bind_assoc ..
  rw [hresume, enter_onFleet_bind h]
  rfl

/-- After one that succeeded a record is kept before anything else happens. -/
theorem enter_starting_ok {request : LaunchRequest} {params : LaunchParams}
    {next : Result SessionRecord → Activity (Registry S) α} {answer : Result Unit}
    {k : KernelHandle} (h : p.state.fleet.settleLaunch request answer = (g, .ok k)) :
    p.enter ((Post.starting request params next).resume answer) =
      Pool.enter ⟨(enlist { p.state with fleet := g } k params).1, p.waiting⟩
        (next (.ok (enlist { p.state with fleet := g } k params).2)) := by
  have hresume : (Post.starting request params next).resume answer =
      (onFleet (atOnce (Fleet.settleLaunch · request answer))).bind _ := Activity.bind_assoc ..
  rw [hresume, enter_onFleet_bind h]
  rfl

/-- A kernel that could not be ended keeps its records. -/
theorem enter_stopping_error {kernel : Tracked} {id : String}
    {next : Result Unit → Activity (Registry S) α} {answer : Result Unit} {e : Fault}
    (h : p.state.fleet.settleShutdown kernel answer = (g, .error e)) :
    p.enter ((Post.stopping kernel id next).resume answer) =
      Pool.enter ⟨{ p.state with fleet := g }, p.waiting⟩ (next (.error e)) := by
  have hresume : (Post.stopping kernel id next).resume answer =
      (onFleet (atOnce (Fleet.settleShutdown · kernel answer))).bind _ := Activity.bind_assoc ..
  rw [hresume, enter_onFleet_bind h]
  rfl

/-- One that has ended is forgotten before anything else happens. -/
theorem enter_stopping_ok {kernel : Tracked} {id : String}
    {next : Result Unit → Activity (Registry S) α} {answer : Result Unit} {k : KernelHandle}
    (h : p.state.fleet.settleShutdown kernel answer = (g, .ok k)) :
    p.enter ((Post.stopping kernel id next).resume answer) =
      Pool.enter ⟨forget { p.state with fleet := g } id, p.waiting⟩ (next (.ok ())) := by
  have hresume : (Post.stopping kernel id next).resume answer =
      (onFleet (atOnce (Fleet.settleShutdown · kernel answer))).bind _ := Activity.bind_assoc ..
  rw [hresume, enter_onFleet_bind h]
  rfl

end

end Registry

end KernelGate
