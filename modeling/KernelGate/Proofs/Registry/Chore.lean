import KernelGate.Proofs.Activity.Zoom
import KernelGate.Proofs.Fleet.Attention
import KernelGate.Proofs.Http.Requests
import KernelGate.Proofs.Registry.Alone

/-!
# Chores

All that clients, culling and a start have a registry do is put together of launches, of shutdowns,
and of steps that change neither names nor which kernels are tracked. What such a chore does, up to
the call at which it waits and from there on, are events, so that no kernel gets out of sight by it.
To end all kernels is a chore too, of which more is known: what it has still to do covers all that
it began with.

Main statements: `chore_answer` (a request is a chore); `enter_chore`, `settle_post` and
`events_of_ends` say what chores do, `enter_closing` what the end of all kernels does.
-/

namespace KernelGate

open Activity

/-! ## What launches and shutdowns are to a fleet

The steps of operations, as the things that can happen to kernels: to be let through, to be taken
away, and to have been answered. All that is looked at is which kernels are tracked and how far the
names have got. -/

namespace Fleet

variable {f g : Fleet} {log : History} {stages : List Stage}

/-- Where the kernels are the same, a look at them shows nothing new. -/
theorem shows_of_kernels (hsupply : g.supply = f.supply) (hnamed : g.named = f.named)
    (hkernels : g.kernels = f.kernels) : f.Shows g f.get? :=
  ⟨hsupply, hnamed, get?_congr hkernels⟩

theorem shows_of_insert {id : String} {k : Tracked} (hsupply : g.supply = f.supply)
    (hnamed : g.named = f.named) (hkernels : g.kernels = f.kernels.insert id k) :
    f.Shows g (Function.update f.get? id (some k.handle)) := by
  refine ⟨hsupply, hnamed, fun id' => ?_⟩
  rw [get?, hkernels, Dict.get?_insert, Function.update_apply]
  split <;> rfl

theorem shows_of_erase {id : String} (hsupply : g.supply = f.supply) (hnamed : g.named = f.named)
    (hkernels : g.kernels = f.kernels.erase id) :
    f.Shows g (Function.update f.get? id none) := by
  refine ⟨hsupply, hnamed, fun id' => ?_⟩
  rw [get?, hkernels, Dict.get?_erase, Function.update_apply]
  split <;> rfl

theorem shows_touch (f : Fleet) (id : String) : f.Shows (f.touch id) f.get? := by
  cases hget : f.kernels.get? id with
  | none =>
    rw [touch_eq_self hget]
    exact ⟨rfl, rfl, fun _ => rfl⟩
  | some k =>
    rw [touch_eq hget]
    have hupdate : Function.update f.get? id (some k.handle) = f.get? := by
      refine Function.update_eq_self_iff.2 ?_
      rw [get?, hget]
      rfl
    have hshows := shows_of_insert (f := f) (k := { k with lastActivity := f.now })
      (g := { f with kernels := f.kernels.insert id { k with lastActivity := f.now } }) rfl rfl rfl
    exact hupdate ▸ hshows

/-- A launch that is refused tracks nothing and gets no name. -/
theorem shows_of_admitLaunch {spec : KernelSpec} {p : LaunchParams} {e : Fault}
    (h : f.admitLaunch spec p = (g, .error e)) : f.Shows g f.get? := by
  simp only [admitLaunch] at h
  repeat' split at h
  all_goals cases h
  all_goals exact shows_of_kernels rfl rfl rfl

/-- A launch that is let through gets the next name. -/
theorem event_of_admitLaunch {spec : KernelSpec} {p : LaunchParams} {request : LaunchRequest}
    (h : f.admitLaunch spec p = (g, .ok request)) :
    Event ⟨log, f, stages⟩ ⟨log, g, .launching request :: stages⟩ := by
  obtain ⟨hbecomes, hsupply, hnamed, hid⟩ := becomes_of_admitLaunch h
  exact .admits (shows_of_kernels hsupply hnamed hbecomes.kernels) hid

/-- A kernel that is to be ended was tracked, and is so no more. -/
theorem event_of_beginShutdown {id : String} {k : Tracked} (h : f.beginShutdown id = (g, .ok k)) :
    Event ⟨log, f, stages⟩ ⟨log, g, .ending k :: stages⟩ := by
  obtain ⟨hget, hbecomes, hsupply, hnamed⟩ := becomes_of_beginShutdown h
  refine .takes ?_ (shows_of_erase hsupply hnamed hbecomes.kernels)
  rw [get?, hget]
  rfl

/-- A kernel that is to be ended is not tracked once this has begun, if it was at all. -/
theorem untracked_of_beginShutdown {id : String} {x : Result Tracked}
    (h : f.beginShutdown id = (g, x)) : g.get? id = none := by
  cases hget : f.kernels.get? id with
  | none =>
    rw [beginShutdown_of_none hget] at h
    cases h
    rw [get?, hget]
    rfl
  | some k =>
    rw [beginShutdown_of_some hget] at h
    cases h
    show ((f.kernels.erase id).get? id).map _ = none
    rw [Dict.get?_erase_self]
    rfl

/-- After a launch the kernel is tracked, or it is not there. -/
theorem fated_of_settleLaunch {request : LaunchRequest} {answer : Result Unit}
    {x : Result KernelHandle} (h : f.settleLaunch request answer = (g, x)) :
    f.Fated g (.launching request) (.answered (some answer)) := by
  cases x with
  | ok k =>
    obtain ⟨rfl, -, hsupply, hnamed, hbecomes⟩ := becomes_of_settleLaunch h
    exact .launched (shows_of_insert hsupply hnamed hbecomes.kernels)
  | error e =>
    obtain ⟨rfl, hsupply, hnamed, hkernels⟩ := becomes_of_settleLaunch_error h
    exact .gone (shows_of_kernels hsupply hnamed hkernels) nofun

/-- After a shutdown the kernel is gone, or it is tracked again. -/
theorem fated_of_settleShutdown {k : Tracked} {answer : Result Unit} {x : Result KernelHandle}
    (h : f.settleShutdown k answer = (g, x)) :
    f.Fated g (.ending k) (.answered (some answer)) := by
  cases x with
  | ok _ =>
    obtain rfl := eq_of_settleShutdown h
    exact .gone (shows_of_kernels rfl rfl rfl) nofun
  | error e =>
    obtain ⟨hsupply, hnamed, hkernels⟩ := becomes_of_settleShutdown_error h
    cases answer with
    | ok _ => cases h
    | error _ => exact .kept (shows_of_insert hsupply hnamed hkernels)

end Fleet

namespace Registry

variable {S α β : Type} [SessionStore S]

/-! ## Chores

A chore is an errand that may also look at the registry, mark kernels as used, and go on according
to what it saw. All that clients ask for is of this kind. -/

/-- Activities that are put together of launches, shutdowns and steps that change neither names nor
which kernels are tracked. -/
inductive Chore : Activity (Registry S) α → Prop where
  | done (x : α) : Chore (.done x)
  | aside {f : Registry S → Registry S} {next : Registry S → Activity (Registry S) α} :
      (∀ r : Registry S, r.fleet.Shows (f r).fleet r.fleet.get?) → (∀ r, Chore (next r)) →
      Chore (.step f next)
  | start {spec : KernelSpec} {p : LaunchParams}
      {next : Result SessionRecord → Activity (Registry S) α} :
      (∀ x, Chore (next x)) → Chore ((startKernel spec p).bind next)
  | stop {id : String} {next : Result Unit → Activity (Registry S) α} :
      (∀ x, Chore (next x)) → Chore ((shutdownKernel id).bind next)

/-- Chores in sequence are a chore. -/
theorem Chore.bind {a : Activity (Registry S) α} {f : α → Activity (Registry S) β}
    (ha : Chore a) (hf : ∀ x, Chore (f x)) : Chore (a.bind f) := by
  induction ha with
  | done x => exact hf x
  | aside hchange _ ih => exact .aside hchange ih
  | start _ ih =>
    rw [Activity.bind_assoc]
    exact .start ih
  | stop _ ih =>
    rw [Activity.bind_assoc]
    exact .stop ih

/-- Every errand is a chore, since steps aside show nothing new. -/
theorem chore_of_errand {a : Activity (Registry S) α} (ha : Errand a) : Chore a := by
  induction ha with
  | done x => exact .done x
  | aside haside _ ih =>
    refine .aside (fun r => ?_) ih
    obtain ⟨metrics, now, hr⟩ := haside r
    rw [hr]
    exact Fleet.shows_of_kernels rfl rfl rfl
  | start _ ih => exact .start ih
  | stop _ ih => exact .stop ih

/-- To look at the registry changes nothing. -/
theorem chore_look {next : Registry S → Activity (Registry S) α} (h : ∀ r, Chore (next r)) :
    Chore (Activity.look.bind next) :=
  .aside (fun _ => ⟨rfl, rfl, fun _ => rfl⟩) h

/-- Culling looks which kernels are idle, and ends these. -/
theorem chore_cullIdle (millis : Nat) : Chore (cullIdle (S := S) millis) :=
  chore_look fun _ => chore_of_errand (errand_cull _)

/-- To look at a kernel marks it as used. -/
theorem chore_lookAt (k : KernelApi) (id : String) : Chore (Api.lookAt (S := S) k id) := by
  refine chore_look fun r => ?_
  cases hget : r.fleet.get? id with
  | none => exact .done _
  | some h =>
    cases hk : k.tracksUse with
    | true => exact .aside (fun r => r.fleet.shows_touch id) fun _ => .done _
    | false => exact .done _

theorem errand_start (k : KernelApi) (request : Request) :
    Errand (Api.start (S := S) k request) := by
  unfold Api.start
  repeat' split
  · exact .done _
  · exact .done _
  · refine .start fun x => ?_
    cases x <;> exact .done _

theorem errand_delete (id : String) : Errand (Api.delete (S := S) id) := by
  refine .stop fun x => ?_
  cases x <;> exact .done _

/-- To answer a request is a chore. -/
theorem chore_answer (api : Api) (request : Request) :
    Chore (api.answer (S := S) request) := by
  refine Api.answer_cases (fun x => .done x) (fun a ha f _ => ?_) (fun k => ?_) (fun id => ?_)
  · cases ha with
    | list => exact (chore_look fun _ => .done _).bind fun _ => .done _
    | lookAt k id => exact (chore_lookAt k id).bind fun _ => .done _
  · exact chore_of_errand (errand_start k request)
  · exact chore_of_errand (errand_delete id)

/-! ## What chores do

A chore that begins, or gets its answer, goes on until it waits again. Whatever it does on the way
are events, and where it waits it is at a post, from which the next answer takes it on. -/

/-- What follows the answer, whatever it is. -/
def Post.Leads (P : Activity (Registry S) α → Prop) : Post S α → Prop
  | starting _ _ next => ∀ x, P (next x)
  | stopping _ _ next => ∀ x, P (next x)

variable {r r' : Registry S} {log : History} {stages : List Fleet.Stage}

/-- A chore that begins comes to its end or to a post, and what it has done by then are events. -/
theorem enter_chore {a : Activity (Registry S) α} (ha : Chore a) (r : Registry S) (log : History)
    (stages : List Fleet.Stage) :
    ∃ (r' : Registry S) (posts : List (Post S α)),
      (Pool.quiet r).enter a = ⟨r', posts.map Post.waiting⟩ ∧
      (∀ post ∈ posts, post.Leads Chore) ∧
      Fleet.Events ⟨log, r.fleet, stages⟩ ⟨log, r'.fleet, posts.map Post.stage ++ stages⟩ := by
  induction ha generalizing r with
  | done x => exact ⟨r, [], rfl, nofun, .refl⟩
  | @aside f next haside _ ih =>
    obtain ⟨r', posts, henter, hposts, hevents⟩ := ih r (f r)
    exact ⟨r', posts, henter, hposts, hevents.head (.aside (haside r))⟩
  | @start spec params next hnext ih =>
    rw [startKernel_bind]
    rcases hadmission : r.fleet.admitLaunch spec params with ⟨g, e | request⟩
    · rw [enter_onFleet_bind hadmission]
      obtain ⟨r', posts, henter, hposts, hevents⟩ := ih (.error e) { r with fleet := g }
      exact ⟨r', posts, henter, hposts,
        hevents.head (.aside (Fleet.shows_of_admitLaunch hadmission))⟩
    · rw [enter_onFleet_bind hadmission]
      exact ⟨{ r with fleet := g }, [.starting request params next], rfl,
        List.forall_mem_singleton.2 hnext, .single (Fleet.event_of_admitLaunch hadmission)⟩
  | @stop id next hnext ih =>
    rw [shutdownKernel_bind]
    rcases hbegin : r.fleet.beginShutdown id with ⟨g, e | kernel⟩
    · rw [enter_onFleet_bind hbegin]
      obtain rfl := Fleet.eq_of_beginShutdown_error hbegin
      exact ih (.error e) r
    · rw [enter_onFleet_bind hbegin]
      exact ⟨{ r with fleet := g }, [.stopping kernel id next], rfl,
        List.forall_mem_singleton.2 hnext, .single (Fleet.event_of_beginShutdown hbegin)⟩

/-- Whoever is answered goes on, once the call is settled. -/
theorem settle_post {P : Activity (Registry S) α → Prop} {post : Post S α} (hpost : post.Leads P)
    (answer : Result Unit) (r : Registry S) (log : History) (stages : List Fleet.Stage) :
    ∃ (r' : Registry S) (a : Activity (Registry S) α), P a ∧
      (Pool.quiet r).enter (post.resume answer) = (Pool.quiet r').enter a ∧
      Fleet.Event ⟨log, r.fleet, post.stage :: stages⟩
        ⟨log ++ [(post.stage.call, .answered (some answer))], r'.fleet, stages⟩ := by
  cases post with
  | starting request params next =>
    rcases hsettle : r.fleet.settleLaunch request answer with ⟨g, e | k⟩
    · exact ⟨_, _, hpost (.error e), enter_starting_error (p := .quiet r) hsettle,
        .settles (Fleet.fated_of_settleLaunch hsettle)⟩
    · exact ⟨_, _, hpost _, enter_starting_ok (p := .quiet r) hsettle,
        .settles (Fleet.fated_of_settleLaunch hsettle)⟩
  | stopping kernel id next =>
    rcases hsettle : r.fleet.settleShutdown kernel answer with ⟨g, e | k⟩
    · exact ⟨_, _, hpost (.error e), enter_stopping_error (p := .quiet r) hsettle,
        .settles (Fleet.fated_of_settleShutdown hsettle)⟩
    · refine ⟨_, _, hpost (.ok ()), enter_stopping_ok (p := .quiet r) hsettle, ?_⟩
      rw [fleet_forget]
      exact .settles (Fleet.fated_of_settleShutdown hsettle)

/-- A chore that is answered goes on to its end or to its next post. -/
theorem enter_resume {post : Post S α} (hpost : post.Leads Chore) (answer : Result Unit)
    (r : Registry S) (log : History) (stages : List Fleet.Stage) :
    ∃ (r' : Registry S) (posts : List (Post S α)),
      (Pool.quiet r).enter (post.resume answer) = ⟨r', posts.map Post.waiting⟩ ∧
      (∀ post ∈ posts, post.Leads Chore) ∧
      Fleet.Events ⟨log, r.fleet, post.stage :: stages⟩
        ⟨log ++ [(post.stage.call, .answered (some answer))], r'.fleet,
          posts.map Post.stage ++ stages⟩ := by
  obtain ⟨r₁, a, ha, hresume, hevent⟩ := settle_post hpost answer r log stages
  obtain ⟨r', posts, henter, hposts, hevents⟩ :=
    enter_chore ha r₁ (log ++ [(post.stage.call, .answered (some answer))]) stages
  exact ⟨r', posts, hresume.trans henter, hposts, hevents.head hevent⟩

/-- The chore waits at one post at most. If it ends alone, its answer is there in the end, and the
rest is a chore that ends alone. -/
theorem events_of_posts {t : Fleet.Scene} {a : Activity (Registry S) α} {calls : Calls} {x : α}
    {r₁ : Registry S} {posts : List (Post S α)}
    (henter : (Pool.quiet r).enter a = ⟨r₁, posts.map Post.waiting⟩)
    (hposts : ∀ post ∈ posts, post.Leads Chore)
    (hevents : Fleet.Events t ⟨log, r₁.fleet, posts.map Post.stage ++ stages⟩)
    (h : a.Ends Passes r calls r' x) :
    Fleet.Events t ⟨log ++ historyOf calls, r'.fleet, stages⟩ := by
  -- On the calls: what a chore goes on with once it is answered has come to its next post.
  induction calls generalizing a r r₁ log posts with
  | nil =>
    obtain ⟨-, hend⟩ | ⟨_, _, _, _, _, -, -, -, hcalls, -⟩ := Pool.enter_of_ends h
    · obtain ⟨rfl, hnone⟩ := Pool.mk.inj (henter.symm.trans hend)
      rw [List.map_eq_nil_iff.1 hnone] at hevents
      rw [show historyOf [] = [] from rfl, List.append_nil]
      exact hevents
    · cases hcalls
  | cons e rest ih =>
    obtain ⟨hcalls, -⟩ | ⟨s₁, s₂, w, reply, rest', hwait, ⟨millis, rfl⟩, hreply, hcalls, hends⟩ :=
      Pool.enter_of_ends h
    · cases hcalls
    obtain ⟨rfl, rfl⟩ := List.cons.inj hcalls
    obtain ⟨rfl, hone⟩ := Pool.mk.inj (henter.symm.trans hwait)
    obtain ⟨post, rfl, rfl⟩ := List.map_eq_singleton_iff.1 hone
    obtain ⟨answer, rfl⟩ := Option.ne_none_iff_exists'.1 (hreply rfl)
    have hpost : post.Leads Chore := hposts post (List.mem_singleton_self _)
    obtain ⟨r₂, posts, henter', hposts', hevents'⟩ :=
      enter_resume hpost answer { r₁ with fleet := r₁.fleet.later millis } log stages
    have hlater : Fleet.Event ⟨log, r₁.fleet, post.stage :: stages⟩
        ⟨log, r₁.fleet.later millis, post.stage :: stages⟩ :=
      .aside (Fleet.shows_of_kernels rfl rfl rfl)
    have hgoes := ih henter' hposts' ((hevents.tail hlater).trans hevents') hends
    rw [List.append_assoc] at hgoes
    exact hgoes

/-- What a chore does that runs alone are events. -/
theorem events_of_ends {a : Activity (Registry S) α} {calls : Calls} {x : α} (ha : Chore a)
    (h : a.Ends Passes r calls r' x) (log : History) (stages : List Fleet.Stage) :
    Fleet.Events ⟨log, r.fleet, stages⟩ ⟨log ++ historyOf calls, r'.fleet, stages⟩ := by
  obtain ⟨r₁, posts, henter, hposts, hevents⟩ := enter_chore ha r log stages
  exact events_of_posts henter hposts hevents h

/-! ## The end of all kernels

To end all kernels a list of them is made once and then worked off. Until it is done, each kernel of
the list is still to come, is being ended, or the launcher was asked to end it. -/

/-- Kernels are ended one after another. -/
def closing (ids : List String) : Activity (Registry S) Unit :=
  (shutdownEach ids).bind fun _ => .done ()

/-- The list is made at the start, in one step. -/
theorem shutdownAll_eq :
    shutdownAll (S := S) = Activity.look.bind fun r => closing r.fleet.kernels.keys := rfl

theorem closing_cons (id : String) (rest : List String) :
    closing (S := S) (id :: rest) = (shutdownKernel id).bind fun _ => closing rest := by
  show Activity.bind (Activity.bind (shutdownKernel id) _) _ = _
  rw [Activity.bind_assoc]
  congr 1
  funext outcome
  show Activity.bind (Activity.bind (shutdownEach rest) _) _ = _
  rw [Activity.bind_assoc]
  rfl

/-- Kernels that are still to be ended cover what they did, as this goes on to its next call. -/
theorem enter_closing (ids : List String) {these : String → Prop} {supply : Supply}
    (hwatched : Fleet.Watched supply ⟨log, r.fleet, stages⟩)
    (hcovers : Fleet.Covers these (· ∈ ids) ⟨log, r.fleet, stages⟩) :
    ∃ (r' : Registry S) (posts : List (Post S Unit)) (rest : List String),
      (Pool.quiet r).enter (closing ids) = ⟨r', posts.map Post.waiting⟩ ∧
      Fleet.Events ⟨log, r.fleet, stages⟩ ⟨log, r'.fleet, posts.map Post.stage ++ stages⟩ ∧
      Fleet.Covers these (· ∈ rest) ⟨log, r'.fleet, posts.map Post.stage ++ stages⟩ ∧
      (posts = [] ∧ rest = [] ∨ ∃ k id, posts = [.stopping k id fun _ => closing rest]) := by
  induction ids with
  | nil => exact ⟨r, [], [], rfl, .refl, hcovers, .inl ⟨rfl, rfl⟩⟩
  | cons id rest ih =>
    -- What is tracked once the end of the first has begun is one of the others.
    have hothers : ∀ {g : Fleet}, g.get? id = none →
        ∀ id', (g.get? id').isSome = true → id' ∈ id :: rest → id' ∈ rest := by
      intro g hgone id' htracked hmem
      refine (List.mem_cons.1 hmem).resolve_left ?_
      rintro rfl
      rw [hgone] at htracked
      cases htracked
    rw [closing_cons, shutdownKernel_bind]
    rcases hbegin : r.fleet.beginShutdown id with ⟨g, e | kernel⟩
    · have hgone := Fleet.untracked_of_beginShutdown hbegin
      rw [enter_onFleet_bind hbegin]
      obtain rfl := Fleet.eq_of_beginShutdown_error hbegin
      exact ih (hcovers.mono (fun _ h => h) (hothers hgone))
    · have hgone := Fleet.untracked_of_beginShutdown hbegin
      have hevent : Fleet.Event ⟨log, r.fleet, stages⟩ ⟨log, g, .ending kernel :: stages⟩ :=
        Fleet.event_of_beginShutdown hbegin
      rw [enter_onFleet_bind hbegin]
      exact ⟨{ r with fleet := g }, [.stopping kernel id fun _ => closing rest], rest, rfl,
        .single hevent, (hevent.covers hwatched hcovers).mono (fun _ h => h) (hothers hgone),
        .inr ⟨kernel, id, rfl⟩⟩

end Registry

end KernelGate
