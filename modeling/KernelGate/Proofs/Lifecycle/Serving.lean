import KernelGate.Lifecycle.Serving
import KernelGate.Proofs.Lifecycle.Starting
import KernelGate.Proofs.Lifecycle.Stopping
import KernelGate.Proofs.Registry.Finding

/-!
# A gateway that serves

A gateway that serves is a shift: a record of calls, the gateway's own task, and all others that
wait for the launcher. The task is on the event loop, comes back, ends the kernels that are tracked
at that moment, and waits for the others, who go on meanwhile.

Main statements: `Step` lists what can happen; `runs_of_close` (closing a gateway is one way to its
end), `Serves.attended` (no kernel is out of sight when it begins to serve), `enter_asked` (what
others have the gateway do are chores of its registry).
-/

namespace KernelGate

open Activity Registry

namespace Gateway

variable {S : Type} [SessionStore S] {g g' : Gateway S} {calls : Calls} {supply : Supply}
  {log : History}

/-! ## A gateway that begins to serve

From a start that succeeded a gateway has the kernels that it took over and those that it launched
to wait for clients. No kernel is lost sight of on the way. -/

/-- Launches one after another are an errand. -/
theorem errand_prespawn (spec : KernelSpec) (count : Nat) :
    Errand (prespawn (S := S) spec count) := by
  induction count with
  | zero => exact .done _
  | succ count ih =>
    refine .start fun x => ?_
    cases x with
    | error e => exact .done _
    | ok record => exact ih

theorem errand_prespawnAll (c : Config) (catalog : Catalog) :
    Errand (prespawnAll (S := S) c catalog) := by
  unfold prespawnAll
  split
  · exact .done _
  · split
    · exact .done _
    · exact errand_prespawn _ _

/-- Once a gateway has been started, it knows of all kernels that it has launched. -/
theorem attended_of_bring {rules : FleetRules} {limit : Int} {store : S} {recoveryLimit : Nat}
    (hg : g.registry = .new (.empty rules limit supply) store recoveryLimit)
    (hinjective : Function.Injective supply.kernelId) (hunused : Unused supply store)
    (h : bring.Ends Passes g calls g' (.ok ())) :
    Fleet.Attended supply ⟨historyOf calls, g'.registry.fleet, []⟩ := by
  obtain ⟨_, report, before, after, h₁, h₂, rfl⟩ := ends_bind_iff.1 h
  obtain ⟨r, hstart, rfl⟩ := ends_onRegistry h₁
  rw [hg] at hstart
  have hr := attended_of_startSessions hunused hstart
  have h₃ := ends_look_bind_iff.1 h₂
  cases hopen : openApi { g with registry := r } with
  | error e =>
    simp only [hopen] at h₃
    exact absurd (ends_giveUp h₃).1 nofun
  | ok api =>
    simp only [hopen] at h₃
    obtain ⟨_, outcome, launches, rest, h₄, h₅, rfl⟩ := ends_bind_iff.1 (ends_change_bind_iff.1 h₃)
    obtain ⟨r₁, hlaunches, rfl⟩ := ends_onRegistry h₄
    cases outcome with
    | error e => exact absurd (ends_giveUp h₅).1 nofun
    | ok _ =>
      obtain ⟨rfl, rfl, -⟩ := ends_done_iff.1 h₅
      have hchore := chore_of_errand (errand_prespawnAll (S := S) g.config g.catalog)
      have hevents := events_of_ends hchore hlaunches (historyOf before) []
      rw [List.append_nil, historyOf_append]
      exact hevents.attended hinjective hr

omit [SessionStore S] in
/-- A gateway that was put together has a registry over its store. -/
theorem registry_of_prepare {c : Config} {parts : Parts S} {control control' : Coordinator}
    (h : prepare c parts control = (control', .ok g)) :
    ∃ store, parts.store = .ok store ∧ g.registry = registryOf c parts store := by
  unfold prepare at h
  split at h
  · cases h
  · rcases assemble_cases c parts with ⟨-, e, hassemble⟩ | ⟨-, catalog, store, -, hstore, hassemble⟩
    · simp only [hassemble] at h
      cases h
    · simp only [hassemble] at h
      cases h
      exact ⟨store, hstore, rfl⟩

theorem registry_of_beginServing (h : (beginServing (.ok ())).Ends Passes g calls g' (.ok ())) :
    g'.registry = g.registry := by
  have h₂ := ends_look_bind_iff.1 h
  split at h₂
  · have h₃ := ends_change_bind_iff.1 h₂
    obtain ⟨-, rfl, -⟩ := ends_done_iff.1 h₃
    rfl
  · exact absurd (ends_giveUp h₂).1 nofun

/-- A gateway is put together, makes its start, and begins to serve. -/
inductive Serves (c : Config) (parts : Parts S) (control : Coordinator) :
    Calls → Gateway S → Prop where
  | intro {control' : Coordinator} {g₀ g₁ g : Gateway S} {calls : Calls} :
      prepare c parts control = (control', .ok g₀) → bring.Ends Passes g₀ calls g₁ (.ok ()) →
      (beginServing (.ok ())).Ends Passes g₁ [] g (.ok ()) → Serves c parts control calls g

/-- All kernels that were launched by then are tracked, or the launcher was asked to end them. -/
theorem Serves.attended {c : Config} {parts : Parts S} {control : Coordinator}
    (hinjective : Function.Injective parts.supply.kernelId)
    (hunused : ∀ store, parts.store = .ok store → Unused parts.supply store)
    (h : Serves c parts control calls g) :
    Fleet.Attended parts.supply ⟨historyOf calls, g.registry.fleet, []⟩ := by
  cases h with
  | intro hprepare hbring hserve =>
    obtain ⟨store, hstore, hregistry⟩ := registry_of_prepare hprepare
    rw [registry_of_beginServing hserve]
    exact attended_of_bring hregistry hinjective (hunused store hstore) hbring

/-! ## What can happen to a gateway that serves

A step is whatever happens next: to a client, to the gateway's own task, or to the phase. The life
of a gateway as it is carried out is one of the runs; in others, clients come between. -/

/-- All those who wait. -/
abbrev Waiters (S : Type) := List (Waiting (Gateway S) Unit)

/-- What the gateway's own task is at. -/
inductive Duty (S : Type) where
  /-- The event loop. -/
  | looping
  /-- The end of all kernels, with the record there was when it began, and what it waits for. -/
  | closing (before : History) (left : Waiters S)
  | done (before : History)

/-- A gateway at work: the calls since its start that wait no longer, its own task, and all others
that wait. -/
structure Shift (S : Type) where
  log : History
  duty : Duty S
  pool : Pool (Gateway S) Unit

/-- What others have a gateway do. -/
inductive Asks : Activity (Gateway S) Unit → Prop where
  | request (r : Request) : Asks ((Gateway.answer r).bind fun _ => .done ())
  | culling (millis : Nat) : Asks ((onRegistry (cullIdle millis)).bind fun _ => .done ())

/-- One thing that happens. Whoever waits may be given up, but for the gateway's own task; this
waits for all others before the gateway's life is over. -/
inductive Step : Shift S → Shift S → Prop where
  | asked {log : History} {duty : Duty S} {p : Pool (Gateway S) Unit}
      {a : Activity (Gateway S) Unit} :
      (∀ before, duty ≠ .done before) → Asks a → Step ⟨log, duty, p⟩ ⟨log, duty, p.enter a⟩
  | answered {log : History} {duty : Duty S} {g : Gateway S} {l m : Waiters S}
      {w : Waiting (Gateway S) Unit} {reply : Reply} : reply.Possible w.limit →
      Step ⟨log, duty, g, l ++ w :: m⟩
        ⟨log ++ [(w.call, .answered reply)], duty, Pool.enter ⟨g, l ++ m⟩ (w.next reply)⟩
  | givenUp {log : History} {duty : Duty S} {g : Gateway S} {l m : Waiters S}
      {w : Waiting (Gateway S) Unit} :
      Step ⟨log, duty, g, l ++ w :: m⟩ ⟨log ++ [(w.call, .givenUp)], duty, g, l ++ m⟩
  | prompted {log : History} {duty : Duty S} {g : Gateway S} {waiting : Waiters S}
      (p : Prompting) :
      Step ⟨log, duty, g, waiting⟩ ⟨log, duty, { g with control := p.act g.control }, waiting⟩
  | passed {log : History} {duty : Duty S} {g : Gateway S} {waiting : Waiters S} (millis : Nat) :
      Step ⟨log, duty, g, waiting⟩
        ⟨log, duty, { g with registry := g.registry.later millis }, waiting⟩
  | loops {log : History} {g : Gateway S} {waiting : Waiters S} :
      Step ⟨log, .looping, g, waiting⟩ ⟨log, .looping, g.runLoop, waiting⟩
  | closes {log : History} {g g' : Gateway S} {waiting left : Waiters S} : g.loopEnded = true →
      (Pool.quiet g).enter (onRegistry shutdownAll) = ⟨g', left⟩ →
      Step ⟨log, .looping, g, waiting⟩ ⟨log, .closing log left, g', waiting⟩
  | goesOn {log before : History} {g g' : Gateway S} {waiting left : Waiters S}
      {w : Waiting (Gateway S) Unit} {reply : Reply} : reply.Possible w.limit →
      (Pool.quiet g).enter (w.next reply) = ⟨g', left⟩ →
      Step ⟨log, .closing before [w], g, waiting⟩
        ⟨log ++ [(w.call, .answered reply)], .closing before left, g', waiting⟩
  | returns {log before : History} {g : Gateway S} :
      Step ⟨log, .closing before [], g, []⟩ ⟨log, .done before, g.finish, []⟩

abbrev Runs : Shift S → Shift S → Prop := Relation.ReflTransGen Step

/-- Whatever the gateway's own task does alone, while nobody else waits, it does step by step. -/
theorem runs_of_ends {before : History} {a : Activity (Gateway S) Unit} {x : Unit}
    (h : a.Ends Passes g calls g' x) (log : History) :
    Runs ⟨log, .closing before ((Pool.quiet g).enter a).waiting, ((Pool.quiet g).enter a).state, []⟩
      ⟨log ++ historyOf calls, .closing before [], g', []⟩ := by
  induction h generalizing log with
  | done x g =>
    rw [show historyOf [] = [] from rfl, List.append_nil]
    exact .refl
  | step _ ih => exact ih log
  | @call c limit next g g₁ g' reply calls x hpasses hreply _ ih =>
    obtain ⟨_, ⟨millis, rfl⟩, rfl⟩ := hpasses
    have hgoes := ih (log ++ [(c, .answered reply)])
    rw [List.append_assoc] at hgoes
    exact .head (.passed millis) (.head (.goesOn hreply rfl) hgoes)

/-- To close a gateway at which nobody waits is one way in which its life ends. -/
theorem runs_of_close (hended : g.loopEnded = true) (h : close.Ends Passes g calls g' ())
    (log : History) :
    Runs ⟨log, .looping, .quiet g⟩ ⟨log ++ historyOf calls, .done log, .quiet g'⟩ := by
  obtain ⟨g₁, _, before, after, hshut, hfinish, rfl⟩ := ends_bind_iff.1 h
  obtain ⟨rfl, rfl⟩ := ends_change_iff.1 hfinish
  rw [List.append_nil]
  exact .head (.closes hended rfl) ((runs_of_ends hshut log).tail .returns)

/-! ## What others do

A request is a chore of the registry, and waits at the posts at which chores wait. -/

/-- How a chore of the registry waits, as far as the gateway is concerned. -/
def outer (post : Post S Unit) : Waiting (Gateway S) Unit :=
  post.waiting.zoom (·.registry) fun g r => { g with registry := r }

/-- Where the registry comes to, the gateway comes to. -/
theorem enter_onRegistry {a : Activity (Registry S) Unit} {r : Registry S}
    {posts : List (Post S Unit)}
    (h : (Pool.quiet g.registry).enter a = ⟨r, posts.map Post.waiting⟩) :
    (Pool.quiet g).enter (onRegistry a) = ⟨{ g with registry := r }, posts.map outer⟩ := by
  unfold onRegistry
  refine Eq.trans (Pool.enter_zoom ?_ ?_ ?_ a g) ?_
  · intro g r
    rfl
  · intro g r r'
    rfl
  · intro g
    rfl
  · rw [h, List.map_map]
    rfl

/-- What others have a gateway do is a chore of its registry. -/
theorem enter_asked {a : Activity (Gateway S) Unit} (ha : Asks a) (g : Gateway S) (log : History)
    (stages : List Fleet.Stage) :
    ∃ (r : Registry S) (posts : List (Post S Unit)),
      (Pool.quiet g).enter a = ⟨{ g with registry := r }, posts.map outer⟩ ∧
      (∀ post ∈ posts, post.Leads Chore) ∧
      Fleet.Events ⟨log, g.registry.fleet, stages⟩
        ⟨log, r.fleet, posts.map Post.stage ++ stages⟩ := by
  -- Either way the gateway only hands on what its registry does.
  have hchore : ∃ b : Activity (Registry S) Unit, Chore b ∧
      (Pool.quiet g).enter a = (Pool.quiet g).enter (onRegistry b) := by
    cases ha with
    | request r =>
      refine ⟨(g.api.answer (S := S) r).bind fun _ => .done (),
        (chore_answer g.api r).bind fun _ => .done _, ?_⟩
      have hzoom : onRegistry ((g.api.answer (S := S) r).bind fun _ => .done ()) =
          (onRegistry (g.api.answer r)).bind fun _ => .done () := zoom_bind _ _ _ _
      have hanswer : (Gateway.answer (S := S) r).bind (fun _ => .done ()) =
          look.bind fun g => (onRegistry (g.api.answer r)).bind fun _ => .done () :=
        Activity.bind_assoc ..
      rw [hanswer, hzoom]
      exact Pool.enter_look_bind ..
    | culling millis =>
      refine ⟨(cullIdle (S := S) millis).bind fun _ => .done (), ?_, ?_⟩
      · exact (chore_cullIdle millis).bind fun _ => .done _
      · have hzoom : onRegistry ((cullIdle (S := S) millis).bind fun _ => .done ()) =
            (onRegistry (cullIdle millis)).bind fun _ => .done () := zoom_bind _ _ _ _
        rw [hzoom]
  obtain ⟨b, hb, hsame⟩ := hchore
  obtain ⟨r, posts, henter, hposts, hevents⟩ := enter_chore hb g.registry log stages
  exact ⟨r, posts, hsame.trans (enter_onRegistry henter), hposts, hevents⟩

end Gateway

end KernelGate
