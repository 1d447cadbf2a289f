import KernelGate.Proofs.Lifecycle.Serving

/-!
# The end of a gateway that serves

A gateway is stopped while requests of clients may still wait for the launcher. What has been
launched by the time that its own task begins to end kernels is attended to; a kernel that comes
later is ended only if somebody else has it ended.

Main statements: `tended_of_step` says what is kept by all that can happen, and
`noticed_iff_of_runs` what it comes to when the gateway's life is over.
-/

namespace KernelGate

open Activity Registry

namespace Gateway

variable {S : Type} [SessionStore S] {g g' : Gateway S} {calls : Calls} {supply : Supply}
  {log : History}

/-! ## What is kept

Whatever happens to a gateway that serves are events, so no kernel is lost sight of. Besides, the
gateway's own task has a list to work off, made when it began to end kernels, and minds the kernels
on it until it is done. -/

/-- What the gateway's own task has still to do covers all that had been launched when it began to
end kernels; `own` is where it waits, `stages` are the calls of all others. -/
inductive Minds (log : History) (f : Fleet) (stages : List Fleet.Stage) :
    Duty S → List (Post S Unit) → Prop where
  | looping : Minds log f stages .looping []
  | closing {before : History} {own : List (Post S Unit)} {left : Waiters S} {rest : List String} :
      before <+: log → left = own.map outer →
      Fleet.Covers before.Launched (· ∈ rest) ⟨log, f, own.map Post.stage ++ stages⟩ →
      (own = [] ∧ rest = [] ∨ ∃ k id, own = [.stopping k id fun _ => Registry.closing rest]) →
      Minds log f stages (.closing before left) own
  | done {before : History} : before <+: log → stages = [] →
      Fleet.Covers before.Launched (fun _ => False) ⟨log, f, []⟩ →
      Minds log f stages (.done before) []

/-- All others stand at their posts, and no kernel is out of sight. -/
def Tended (supply : Supply) (s : Shift S) : Prop :=
  ∃ own posts : List (Post S Unit), s.pool.waiting = posts.map outer ∧
    (∀ post ∈ posts, post.Leads Chore) ∧
    Fleet.Attended supply
      ⟨s.log, s.pool.state.registry.fleet, own.map Post.stage ++ posts.map Post.stage⟩ ∧
    Minds s.log s.pool.state.registry.fleet (posts.map Post.stage) s.duty own

omit [SessionStore S] in
/-- The calls of others, with one of them in front. -/
theorem perm_front {own posts rest : List (Post S Unit)} {post : Post S Unit}
    (h : posts.Perm (post :: rest)) :
    (own.map Post.stage ++ posts.map Post.stage).Perm
      (post.stage :: (own.map Post.stage ++ rest.map Post.stage)) :=
  ((h.map Post.stage).append_left _).trans List.perm_middle

omit [SessionStore S] in
/-- The calls of others, with new ones behind them. -/
theorem perm_back {own posts new : List (Post S Unit)} :
    (new.map Post.stage ++ (own.map Post.stage ++ posts.map Post.stage)).Perm
      (own.map Post.stage ++ (posts ++ new).map Post.stage) := by
  rw [List.map_append, ← List.append_assoc (own.map Post.stage)]
  exact List.perm_append_comm

/-- Where somebody waits, the gateway's life is not over. -/
theorem Minds.not_done {own posts rest : List (Post S Unit)} {post : Post S Unit} {f : Fleet}
    {duty : Duty S} (h : Minds log f (posts.map Post.stage) duty own)
    (hposts : posts.Perm (post :: rest)) (before : History) : duty ≠ .done before := by
  rintro rfl
  cases h with
  | done _ hstages _ =>
    rw [List.map_eq_nil_iff.1 hstages] at hposts
    exact absurd hposts.length_eq nofun

/-- Whoever is answered or given up stands at a post, which may come first. -/
theorem Tended.split {duty : Duty S} {l m : Waiters S} {w : Waiting (Gateway S) Unit}
    (h : Tended supply ⟨log, duty, g, l ++ w :: m⟩) :
    ∃ (own posts : List (Post S Unit)) (post : Post S Unit) (rest : List (Post S Unit)),
      w = outer post ∧ l ++ m = rest.map outer ∧ (∀ post ∈ posts, post.Leads Chore) ∧
      posts.Perm (post :: rest) ∧
      Fleet.Attended supply
        ⟨log, g.registry.fleet, own.map Post.stage ++ posts.map Post.stage⟩ ∧
      Minds log g.registry.fleet (posts.map Post.stage) duty own := by
  obtain ⟨own, posts, hwaiting, hposts, hattended, hminds⟩ := h
  obtain ⟨before, others, rfl, rfl, hrest⟩ := List.map_eq_append_iff.1 hwaiting.symm
  obtain ⟨post, after, rfl, rfl, rfl⟩ := List.map_eq_cons_iff.1 hrest
  exact ⟨own, _, post, before ++ after, rfl, List.map_append.symm, hposts, List.perm_middle,
    hattended, hminds⟩

section

variable {log' : History} {duty : Duty S} {own posts posts' : List (Post S Unit)}
  (hinjective : Function.Injective supply.kernelId)

include hinjective

/-- What others do is nothing to what the gateway's own task has still to do. -/
theorem Minds.events {f f' : Fleet} {stages stages' : List Fleet.Stage}
    (h : Minds log f stages duty own) (hlog : log <+: log')
    (hattended : Fleet.Attended supply ⟨log, f, own.map Post.stage ++ stages⟩)
    (hevents : Fleet.Events ⟨log, f, own.map Post.stage ++ stages⟩
      ⟨log', f', own.map Post.stage ++ stages'⟩)
    (hdone : ∀ before, duty = .done before → stages' = []) : Minds log' f' stages' duty own := by
  cases h with
  | looping => exact .looping
  | closing hbefore hleft hcovers hown =>
    exact .closing (hbefore.trans hlog) hleft (hevents.covers hinjective hattended hcovers) hown
  | @done before hbefore hstages hcovers =>
    obtain rfl := hdone before rfl
    subst hstages
    exact .done (hbefore.trans hlog) rfl (hevents.covers hinjective hattended hcovers)

/-- Others have done something, and stand at their posts again. -/
theorem Tended.goes (hposts : ∀ post ∈ posts', post.Leads Chore) (hlog : log <+: log')
    (hattended : Fleet.Attended supply
      ⟨log, g.registry.fleet, own.map Post.stage ++ posts.map Post.stage⟩)
    (hminds : Minds log g.registry.fleet (posts.map Post.stage) duty own)
    (hevents : Fleet.Events ⟨log, g.registry.fleet, own.map Post.stage ++ posts.map Post.stage⟩
      ⟨log', g'.registry.fleet, own.map Post.stage ++ posts'.map Post.stage⟩)
    (hdone : ∀ before, duty = .done before → posts' = []) :
    Tended supply ⟨log', duty, g', posts'.map outer⟩ := by
  refine ⟨own, posts', rfl, hposts, hevents.attended hinjective hattended,
    hminds.events hinjective hlog hattended hevents fun before hduty => ?_⟩
  rw [hdone before hduty]
  rfl

/-- Others have done nothing that concerns kernels. -/
theorem Tended.aside {waiting : Waiters S} (h : Tended supply ⟨log, duty, g, waiting⟩)
    (hg : g.registry.fleet.Shows g'.registry.fleet g.registry.fleet.get?) :
    Tended supply ⟨log, duty, g', waiting⟩ := by
  obtain ⟨own, posts, rfl, hposts, hattended, hminds⟩ := h
  refine Tended.goes hinjective hposts (List.prefix_refl log) hattended hminds
    (.single (.aside hg)) ?_
  rintro before rfl
  cases hminds with
  | done _ hstages _ => exact List.map_eq_nil_iff.1 hstages

/-- The gateway's own task goes on with the end of kernels that cover enough. -/
theorem Tended.closes {before : History} {a : Activity (Registry S) Unit} {r : Registry S}
    {ids : List String} {left : Waiters S} (hposts : ∀ post ∈ posts, post.Leads Chore)
    (hbefore : before <+: log)
    (ha : (Pool.quiet g.registry).enter a = (Pool.quiet r).enter (Registry.closing ids))
    (hattended : Fleet.Attended supply ⟨log, r.fleet, posts.map Post.stage⟩)
    (hcovers : Fleet.Covers before.Launched (· ∈ ids) ⟨log, r.fleet, posts.map Post.stage⟩)
    (hends : (Pool.quiet g).enter (onRegistry a) = ⟨g', left⟩) :
    Tended supply ⟨log, .closing before left, g', posts.map outer⟩ := by
  obtain ⟨r', own, rest, henter, hevents, hcovers', hown⟩ :=
    enter_closing ids hattended.watched hcovers
  cases hends.symm.trans (enter_onRegistry (ha.trans henter))
  exact ⟨own, posts, rfl, hposts, hevents.attended hinjective hattended,
    .closing hbefore rfl hcovers' hown⟩

/-- A request that begins goes on to its first wait, or to its end. -/
theorem Tended.asked {p : Pool (Gateway S) Unit} {a : Activity (Gateway S) Unit}
    (h : Tended supply ⟨log, duty, p⟩) (hduty : ∀ before, duty ≠ .done before) (ha : Asks a) :
    Tended supply ⟨log, duty, p.enter a⟩ := by
  obtain ⟨g, waiting⟩ := p
  obtain ⟨own, posts, rfl, hposts, hattended, hminds⟩ := h
  obtain ⟨r, new, henter, hnew, hevents⟩ :=
    enter_asked ha g log (own.map Post.stage ++ posts.map Post.stage)
  rw [Pool.enter_eq, henter, ← List.map_append]
  refine Tended.goes hinjective ?_ (List.prefix_refl log) hattended hminds (hevents.perm perm_back)
    fun before heq => absurd heq (hduty before)
  intro post hmem
  exact (List.mem_append.1 hmem).elim (hposts post) (hnew post)

/-- So it does with every answer. -/
theorem Tended.answered {l m : Waiters S} {w : Waiting (Gateway S) Unit} {reply : Reply}
    (h : Tended supply ⟨log, duty, g, l ++ w :: m⟩) (hreply : reply.Possible w.limit) :
    Tended supply
      ⟨log ++ [(w.call, .answered reply)], duty, Pool.enter ⟨g, l ++ m⟩ (w.next reply)⟩ := by
  obtain ⟨own, posts, post, rest, rfl, hrest, hposts, hperm, hattended, hminds⟩ := h.split
  obtain ⟨answer, rfl⟩ := Option.ne_none_iff_exists'.1 (hreply rfl)
  have hpost : post.Leads Chore := hposts post (hperm.mem_iff.2 List.mem_cons_self)
  obtain ⟨r, new, henter, hnew, hevents⟩ :=
    enter_resume hpost answer g.registry log (own.map Post.stage ++ rest.map Post.stage)
  have henter' : (Pool.quiet g).enter ((outer post).next (some answer)) =
      ⟨{ g with registry := r }, new.map outer⟩ := enter_onRegistry henter
  rw [Pool.enter_eq, henter', hrest, ← List.map_append]
  refine Tended.goes hinjective ?_ (List.prefix_append _ _) hattended hminds
    (.head (.perm (perm_front hperm)) (hevents.perm perm_back))
    fun before heq => absurd heq (hminds.not_done hperm before)
  intro post' hmem
  rcases List.mem_append.1 hmem with hmem | hmem
  · exact hposts post' (hperm.mem_iff.2 (List.mem_cons_of_mem _ hmem))
  · exact hnew post' hmem

/-- A request that is given up leaves its kernel as the record says that it was left. -/
theorem Tended.givenUp {l m : Waiters S} {w : Waiting (Gateway S) Unit}
    (h : Tended supply ⟨log, duty, g, l ++ w :: m⟩) :
    Tended supply ⟨log ++ [(w.call, .givenUp)], duty, g, l ++ m⟩ := by
  obtain ⟨own, posts, post, rest, rfl, hrest, hposts, hperm, hattended, hminds⟩ := h.split
  have hevent : Fleet.Event
      ⟨log, g.registry.fleet, post.stage :: (own.map Post.stage ++ rest.map Post.stage)⟩
      ⟨log ++ [(post.stage.call, .givenUp)], g.registry.fleet,
        own.map Post.stage ++ rest.map Post.stage⟩ :=
    .settles (.gone ⟨rfl, rfl, fun _ => rfl⟩ nofun)
  rw [hrest]
  exact Tended.goes hinjective
    (fun post' hmem => hposts post' (hperm.mem_iff.2 (List.mem_cons_of_mem _ hmem)))
    (List.prefix_append _ _) hattended hminds (.head (.perm (perm_front hperm)) (.single hevent))
    fun before heq => absurd heq (hminds.not_done hperm before)

/-- All kernels are tracked that have been launched and nobody has had ended by the time that the
event loop comes back. -/
theorem Tended.leaves {waiting left : Waiters S} (h : Tended supply ⟨log, .looping, g, waiting⟩)
    (hends : (Pool.quiet g).enter (onRegistry shutdownAll) = ⟨g', left⟩) :
    Tended supply ⟨log, .closing log left, g', waiting⟩ := by
  obtain ⟨own, posts, rfl, hposts, hattended, hminds⟩ := h
  cases hminds
  rw [shutdownAll_eq] at hends
  refine Tended.closes hinjective hposts (List.prefix_refl log) (Pool.enter_look_bind _ _) hattended
    (hattended.covers.mono (fun _ h => h) fun id htracked _ => ?_) hends
  rw [Dict.mem_keys, Fleet.contains_eq_isSome]
  exact htracked

/-- The task ends one kernel after another, and is answered for each. -/
theorem Tended.goesOn {before : History} {waiting left : Waiters S} {w : Waiting (Gateway S) Unit}
    {reply : Reply} (h : Tended supply ⟨log, .closing before [w], g, waiting⟩)
    (hreply : reply.Possible w.limit) (hends : (Pool.quiet g).enter (w.next reply) = ⟨g', left⟩) :
    Tended supply ⟨log ++ [(w.call, .answered reply)], .closing before left, g', waiting⟩ := by
  obtain ⟨own, posts, rfl, hposts, hattended, hminds⟩ := h
  cases hminds with
  | @closing _ _ _ rest hbefore hleft hcovers hown =>
    obtain ⟨post, rfl, rfl⟩ := List.map_eq_singleton_iff.1 hleft.symm
    obtain ⟨answer, rfl⟩ := Option.ne_none_iff_exists'.1 (hreply rfl)
    rcases hown with ⟨hnone, -⟩ | ⟨k, id, hone⟩
    · cases hnone
    · cases hone
      have hpost : (Post.stopping k id fun _ => Registry.closing rest).Leads
          (· = Registry.closing (S := S) rest) := fun _ => rfl
      obtain ⟨r, _, rfl, hresume, hevent⟩ :=
        settle_post hpost answer g.registry log (posts.map Post.stage)
      have hevents : Fleet.Events _ _ := .single hevent
      exact Tended.closes hinjective hposts (hbefore.trans (List.prefix_append _ _)) hresume
        (hevents.attended hinjective hattended) (hevents.covers hinjective hattended hcovers) hends

omit hinjective in
/-- When it has worked off its list and nobody waits any more, the gateway's life is over. -/
theorem Tended.returns {before : History} (h : Tended supply ⟨log, .closing before [], g, []⟩) :
    Tended supply ⟨log, .done before, g.finish, []⟩ := by
  obtain ⟨own, posts, hnobody, hposts, hattended, hminds⟩ := h
  obtain rfl := List.map_eq_nil_iff.1 hnobody.symm
  cases hminds with
  | closing hbefore hleft hcovers hown =>
    obtain rfl := List.map_eq_nil_iff.1 hleft.symm
    obtain ⟨-, rfl⟩ | ⟨k, id, hone⟩ := hown
    · exact ⟨[], [], rfl, nofun, hattended,
        .done hbefore rfl (hcovers.mono (fun _ h => h) fun _ _ h => nomatch h)⟩
    · cases hone

/-- Whatever happens, all are at their posts, and what has been launched by the end of the event
loop is attended to. -/
theorem tended_of_step {s s' : Shift S} (hs : Tended supply s) (h : Step s s') :
    Tended supply s' := by
  cases h with
  | asked hduty ha => exact hs.asked hinjective hduty ha
  | answered hreply => exact hs.answered hinjective hreply
  | givenUp => exact hs.givenUp hinjective
  | prompted _ => exact hs.aside hinjective ⟨rfl, rfl, fun _ => rfl⟩
  | passed millis => exact hs.aside hinjective (Fleet.shows_of_kernels rfl rfl rfl)
  | loops => exact hs.aside hinjective ⟨rfl, rfl, fun _ => rfl⟩
  | closes _ henter => exact hs.leaves hinjective henter
  | goesOn hreply henter => exact hs.goesOn hinjective hreply henter
  | returns => exact hs.returns

/-- Whatever happens, the gateway is tended to. -/
theorem tended_of_runs {s s' : Shift S} (hs : Tended supply s) (h : Runs s s') :
    Tended supply s' := by
  induction h with
  | refl => exact hs
  | tail _ hstep ih => exact tended_of_step hinjective ih hstep

end

/-! ## When it is over

Which kernels the launcher was asked to end can be told from the record alone: those that were
launched before the task made its list, and those that somebody else wanted to be ended. -/

/-- The kernels whose launch was answered before the gateway's own task began to end kernels have
all been passed to the launcher to be ended by the time that the gateway's life is over. So all
kernels of the run have been just if those have that were launched later; and this, again, is so
just if every kernel of the run that is still tracked is one that could not be ended. -/
theorem noticed_iff_of_runs {c : Config} {parts : Parts S} {control : Coordinator}
    (hinjective : Function.Injective parts.supply.kernelId)
    (hunused : ∀ store, parts.store = .ok store → Unused parts.supply store)
    (hserves : Serves c parts control calls g) {before : History} {last : Pool (Gateway S) Unit}
    (h : Runs ⟨historyOf calls, .looping, .quiet g⟩ ⟨log, .done before, last⟩) :
    ∃ after, log = before ++ after ∧ (∀ id, before.Launched id → log.Noticed id) ∧
      ((∀ id, log.Launched id → log.Noticed id) ↔ ∀ id, after.Launched id → log.Noticed id) ∧
      ((∀ id, log.Launched id → last.state.registry.fleet.kernels.contains id = true →
          ∃ e, log.ending? id = some (.answered (some (.error e)))) ↔
        ∀ id, after.Launched id → log.Noticed id) := by
  have hstart : Tended parts.supply (⟨historyOf calls, .looping, .quiet g⟩ : Shift S) :=
    ⟨[], [], rfl, nofun, hserves.attended hinjective hunused, .looping⟩
  obtain ⟨own, posts, -, -, hattended, hminds⟩ := tended_of_runs hinjective hstart h
  cases hminds with
  | done hbefore hstages hcovers =>
    obtain ⟨after, rfl⟩ := hbefore
    have hnoticed : ∀ id, before.Launched id → History.Noticed (before ++ after) id := by
      intro id hid
      rcases hcovers id hid with hnoticed | ⟨k, hk, -⟩ | ⟨-, hfalse⟩
      · exact hnoticed
      · cases hk
      · exact hfalse.elim
    have hall : (∀ id, History.Launched after id → History.Noticed (before ++ after) id) →
        ∀ id, History.Launched (before ++ after) id → History.Noticed (before ++ after) id := by
      intro hlater id hid
      rcases (History.launched_append _ _ _).1 hid with hid | hid
      · exact hnoticed id hid
      · exact hlater id hid
    refine ⟨after, rfl, hnoticed, ⟨fun h id hid => ?_, hall⟩, fun hfailed id hid => ?_,
      fun hlater id hid htracked => ?_⟩
    · exact h id ((History.launched_append _ _ _).2 (.inr hid))
    · have hlaunched := (History.launched_append before _ _).2 (.inr hid)
      rw [hstages] at hattended
      -- A kernel is in sight in one of three ways, and there is nobody left who waits for one.
      rcases hattended.covers id hlaunched with hnoticed | ⟨k, hk, -⟩ | ⟨htracked, -⟩
      · exact hnoticed
      · cases hk
      · obtain ⟨e, hending⟩ := hfailed id hlaunched (by rwa [Fleet.contains_eq_isSome])
        exact History.noticed_iff.2 ⟨_, hending⟩
    · obtain ⟨fate, hending⟩ := History.noticed_iff.1 (hall hlater id hid)
      rw [Fleet.contains_eq_isSome] at htracked
      obtain ⟨e, rfl⟩ := hattended.watched.failed id fate htracked hending
      exact ⟨e, hending⟩

/-! ## An evening

A gateway with one kernel, and a second one that a client asks for before the end and that is
launched after the task has made its list. Nobody asks the launcher to end it. -/

/-- A gateway that comes to serve without a call to the launcher. -/
def serving? (c : Config) (parts : Parts S) : Option (Gateway S) :=
  match (prepare c parts .initial).2 with
  | .error _ => none
  | .ok g =>
    match bring.advance g with
    | (g₁, .finished (.ok _)) =>
      match (beginServing (.ok ())).advance g₁ with
      | (g₂, .finished (.ok _)) => some g₂
      | _ => none
    | _ => none

/-- A gateway that comes to serve when it is carried out does so in the sense of the theory. -/
theorem serves_of_serving? {c : Config} {parts : Parts S} (h : serving? c parts = some g) :
    Serves c parts .initial [] g := by
  unfold serving? at h
  split at h
  · cases h
  · next g₀ hprepare =>
    split at h
    · next g₁ _ hbring =>
      split at h
      · next g₂ _ hserve =>
        cases h
        exact .intro (Prod.ext rfl hprepare) (ends_of_advance hbring) (ends_of_advance hserve)
      · cases h
    · cases h

/-- The launcher may answer whoever has waited longest. -/
theorem step_first {duty : Duty S} {p : Pool (Gateway S) Unit} (hp : p.waiting ≠ [])
    (answer : Result Unit) :
    Step ⟨log, duty, p⟩ ⟨log ++ p.record 0 (.answered (some answer)), duty,
      p.settle 0 (.answered (some answer))⟩ := by
  obtain ⟨g, waiting⟩ := p
  obtain ⟨w, m, rfl⟩ := List.exists_cons_of_ne_nil hp
  exact .answered (l := []) (Reply.possible_some _ _)

/-- Or it answers the gateway's own task. -/
theorem step_own {before : History} {p : Pool (Gateway S) Unit} {waiting : Waiters S}
    (hp : p.waiting.length = 1) (answer : Result Unit) :
    Step ⟨log, .closing before p.waiting, p.state, waiting⟩
      ⟨log ++ p.record 0 (.answered (some answer)),
        .closing before (p.settle 0 (.answered (some answer))).waiting,
        (p.settle 0 (.answered (some answer))).state, waiting⟩ := by
  obtain ⟨g, left⟩ := p
  obtain ⟨w, rfl⟩ := List.length_eq_one_iff.1 hp
  exact .goesOn (Reply.possible_some _ _) rfl

/-- A gateway with nothing left over from before. -/
def quietParts : Parts MemoryStore := ⟨"gateway", tallied, none, .ok ∅, true⟩

def evening : Gateway MemoryStore := (serving? Config.standard quietParts).get (by decide +kernel)

def wish : Request := ⟨"POST", "/api/kernels", some "application/json", "{}".toUTF8.toList⟩

def wishing : Activity (Gateway MemoryStore) Unit := (Gateway.answer wish).bind fun _ => .done ()

def success : CallFate := .answered (some (.ok ()))

/-- A client has asked for a kernel. -/
def early : Pool (Gateway MemoryStore) Unit := (Pool.quiet evening).enter wishing

/-- The kernel runs, and another one is asked for while the gateway serves. -/
def late : Pool (Gateway MemoryStore) Unit := (early.settle 0 success).enter wishing

/-- The gateway is told to end, and its event loop comes back. -/
def told : Gateway MemoryStore :=
  { late.state with control := Prompting.terminate.act late.state.control }.runLoop

/-- It ends the kernel that runs. -/
def closed : Pool (Gateway MemoryStore) Unit := (Pool.quiet told).enter (onRegistry shutdownAll)

/-- The other kernel is launched while this waits. -/
def lateSettled : Pool (Gateway MemoryStore) Unit :=
  Pool.settle ⟨closed.state, late.waiting⟩ 0 success

def ownSettled : Pool (Gateway MemoryStore) Unit :=
  Pool.settle ⟨lateSettled.state, closed.waiting⟩ 0 success

def eveningLog : History :=
  early.record 0 success ++ late.record 0 success ++ closed.record 0 success

theorem serves_evening : Serves Config.standard quietParts .initial [] evening :=
  serves_of_serving? (Option.some_get _).symm

/-- The first kernel is launched while the gateway serves. -/
theorem runs_early :
    Runs ⟨[], .looping, .quiet evening⟩
      ⟨early.record 0 success, .looping, early.settle 0 success⟩ :=
  (Relation.ReflTransGen.single (.asked nofun (.request wish))).tail
    (step_first (by decide +kernel) (.ok ()))

/-- The second is launched after the task has begun to end kernels. -/
theorem runs_late :
    Runs ⟨early.record 0 success, .looping, late⟩
      ⟨eveningLog, .done (early.record 0 success), ownSettled.state.finish, []⟩ := by
  have htold : Runs ⟨early.record 0 success, .looping, late⟩
      ⟨early.record 0 success, .looping, told, late.waiting⟩ :=
    (Relation.ReflTransGen.single (.prompted .terminate)).tail .loops
  have hclosed : Runs _ ⟨early.record 0 success, .closing (early.record 0 success) closed.waiting,
      closed.state, late.waiting⟩ := htold.tail (.closes (by decide +kernel) rfl)
  have hlate : Runs _ ⟨early.record 0 success ++ late.record 0 success,
      .closing (early.record 0 success) closed.waiting, lateSettled⟩ :=
    hclosed.tail (step_first (by decide +kernel) (.ok ()))
  have hown : Runs _ ⟨eveningLog, .closing (early.record 0 success) ownSettled.waiting,
      ownSettled.state, lateSettled.waiting⟩ :=
    hlate.tail (step_own (p := ⟨lateSettled.state, closed.waiting⟩) (by decide +kernel) (.ok ()))
  have hlate_done : lateSettled.waiting = [] := List.isEmpty_iff.1 (by decide +kernel)
  have hown_done : ownSettled.waiting = [] := List.isEmpty_iff.1 (by decide +kernel)
  rw [hlate_done, hown_done] at hown
  exact hown.tail .returns

omit [SessionStore S] in
/-- Of the launch of whoever waits first, once it has succeeded. -/
theorem launched_record {p : Pool (Gateway S) Unit} {id : String}
    (h : p.waiting.head?.any (fun w => w.call.kind = .launch && w.call.handle.id = id) = true) :
    History.Launched (p.record 0 success) id := by
  obtain ⟨g, _ | ⟨⟨_ | _ | _, limit, next⟩, rest⟩⟩ := p
  · cases h
  · rw [List.head?_cons, Option.any_some, Bool.and_eq_true] at h
    exact ⟨_, List.mem_singleton_self _, of_decide_eq_true h.2⟩
  · cases h
  · cases h

theorem late_not_noticed : ¬ eveningLog.Noticed "kk" := by
  show ¬ ∃ e ∈ eveningLog, e.1.kind = .terminate ∧ e.1.handle.id = "kk"
  decide +kernel

/-- The kernel that was there when the gateway began to end kernels has been passed to the launcher;
but not all kernels that are still tracked are ones that could not be ended. -/
theorem noticed_of_evening :
    eveningLog.Noticed "k" ∧
      ¬ ∀ id, eveningLog.Launched id →
        ownSettled.state.registry.fleet.kernels.contains id = true →
        ∃ e, eveningLog.ending? id = some (.answered (some (.error e))) := by
  have hunused : ∀ store, quietParts.store = .ok store → Unused quietParts.supply store := by
    rintro store ⟨⟩
    exact nofun
  obtain ⟨after, hlog, hbefore, -, htracked⟩ := noticed_iff_of_runs (tally_injective 'k') hunused
    serves_evening (runs_early.trans (.head (.asked nofun (.request wish)) runs_late))
  refine ⟨hbefore "k" (launched_record (by decide +kernel)), fun hall => ?_⟩
  have hafter : after = late.record 0 success ++ closed.record 0 success :=
    (List.append_cancel_left (hlog.symm.trans (List.append_assoc ..)))
  refine late_not_noticed (htracked.1 hall "kk" ?_)
  rw [hafter, History.launched_append]
  exact .inl (launched_record (by decide +kernel))

/-- A request that is accepted while the gateway serves has a kernel launched that nobody ends: at
the end the kernel is tracked, and the launcher has never been asked to end it. -/
theorem unnoticed_of_evening :
    Serves Config.standard quietParts .initial [] evening ∧
      Runs ⟨[], .looping, .quiet evening⟩
        ⟨early.record 0 success, .looping, early.settle 0 success⟩ ∧
      (early.settle 0 success).state.control.phase = .serving ∧
      Runs ⟨early.record 0 success, .looping, (early.settle 0 success).enter wishing⟩
        ⟨eveningLog, .done (early.record 0 success), ownSettled.state.finish, []⟩ ∧
      eveningLog.Launched "kk" ∧
      ownSettled.state.finish.registry.fleet.kernels.contains "kk" = true ∧
      ¬ eveningLog.Noticed "kk" := by
  have hlaunched : eveningLog.Launched "kk" := by
    unfold eveningLog
    rw [History.launched_append, History.launched_append]
    exact .inl (.inr (launched_record (by decide +kernel)))
  exact ⟨serves_evening, runs_early, by decide +kernel, runs_late, hlaunched, by decide +kernel,
    late_not_noticed⟩

end Gateway

end KernelGate
