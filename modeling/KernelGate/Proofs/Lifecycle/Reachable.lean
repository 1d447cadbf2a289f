import KernelGate.Proofs.Kernel.Catalog
import KernelGate.Proofs.Lifecycle.Doings

/-!
# The states of a gateway that serves

Whatever clients ask, however their requests overlap and whichever of them are given up, a gateway
goes by the rules that its configuration names, offers the specs that it names, and has a slot for
each kernel that it tracks.

Main statements: `orderly_of_serves` (when it begins to serve), `orderly_of_runs` (from then on).
-/

namespace KernelGate

open Activity Registry

namespace Gateway

variable {S : Type} {c : Config} {parts : Parts S} {control : Coordinator} {g g' : Gateway S}
  {held : Multiset String}

/-- The rules that a configuration names. -/
def rulesOf (c : Config) (parts : Parts S) : FleetRules :=
  (Fleet.ofConfig c parts.gatewayUser parts.supply).rules

/-- The interface that a configuration names, with its kernel resources open. -/
def Opens (c : Config) (parts : Parts S) (api : Api) : Prop :=
  ∃ catalog, Catalog.ofSpecs c.specs = .ok catalog ∧
    api.kernels? = some ⟨catalog, c.defaultKernel, parts.tracksUse⟩

/-- A gateway offers and does what its configuration says, with slots for the launches of these
users. -/
structure Orderly (c : Config) (parts : Parts S) (held : Multiset String) (g : Gateway S) :
    Prop where
  opens : Opens c parts g.api
  backed : g.registry.Backed (rulesOf c parts) held

/-- Whoever is given up holds no slot any more. -/
theorem Orderly.less {others : Multiset String} (h : Orderly c parts (held + others) g) :
    Orderly c parts others g :=
  ⟨h.opens, Fleet.Backed.less h.backed⟩

theorem Orderly.passes (h : Orderly c parts held g) (hpasses : Passes g g') :
    Orderly c parts held g' := by
  obtain ⟨_, ⟨millis, rfl⟩, rfl⟩ := hpasses
  exact ⟨h.opens, h.backed.aside ⟨_, _, rfl⟩⟩

/-- Which specs are offered is no matter of the registry. -/
theorem ofRegistry_orderly : OfRegistry (rulesOf c parts) (Orderly c parts) where
  part := fun hg => hg.backed
  put := fun hr hg => ⟨hg.opens, hr⟩

/-! ## When it begins to serve

From the parts that it is put together of, a gateway gets its rules and its specs; taking kernels
over and launching those that wait for clients changes neither. -/

theorem openKernels_eq_ok {api api' : Api} {catalog : Catalog} {tracksUse : Bool}
    (h : api.openKernels c catalog tracksUse = .ok api') :
    api'.kernels? = some ⟨catalog, c.defaultKernel, tracksUse⟩ := by
  unfold Api.openKernels at h
  split at h
  · cases h
  · cases h
    rfl

theorem openApi_eq_ok {api : Api} (h : g.openApi = .ok api) :
    api.kernels? = some ⟨g.catalog, g.config.defaultKernel, g.tracksUse⟩ := by
  unfold openApi at h
  rcases hapi : Api.ofConfig g.config with e | named
  · rw [hapi] at h
    cases h
  · rw [hapi] at h
    exact openKernels_eq_ok h

/-- A gateway that was put together has the rules of its configuration and no kernels yet. -/
theorem prepare_eq_ok {control' : Coordinator} (h : prepare c parts control = (control', .ok g)) :
    g.config = c ∧ Catalog.ofSpecs c.specs = .ok g.catalog ∧ g.tracksUse = parts.tracksUse ∧
      g.registry.Backed (rulesOf c parts) 0 := by
  unfold prepare at h
  split at h
  · cases h
  · rcases assemble_cases c parts with
      ⟨-, e, hassemble⟩ | ⟨-, catalog, store, hcatalog, -, hassemble⟩
    · simp only [hassemble] at h
      cases h
    · simp only [hassemble] at h
      cases h
      exact ⟨rfl, hcatalog, rfl, Fleet.backed_empty _ _ _⟩

variable [SessionStore S]

omit [SessionStore S] in
/-- What keeps slots in a pool keeps them when it runs alone. -/
theorem backed_of_ends {α : Type} {rules : FleetRules} {a : Activity (Registry S) α} {x : α}
    {r r' : Registry S} {calls : Calls} (ha : a.Guards (Registry.Backed rules) rules.Permits 0)
    (h : a.Ends Registry.Passes r calls r' x) (hr : r.Backed rules 0) : r'.Backed rules 0 := by
  refine ha.ends (fun hr => Fleet.Backed.less hr) ?_ h hr
  rintro held r _ ⟨millis, rfl⟩ hr
  exact hr.aside ⟨_, _, rfl⟩

/-- A start that succeeds has opened the interface with the catalog and the default kernel. -/
theorem orderly_of_bring {calls : Calls} (hconfig : g.config = c)
    (hcatalog : Catalog.ofSpecs c.specs = .ok g.catalog) (huse : g.tracksUse = parts.tracksUse)
    (hg : g.registry.Backed (rulesOf c parts) 0) (h : bring.Ends Passes g calls g' (.ok ())) :
    Orderly c parts 0 g' := by
  subst hconfig
  obtain ⟨_, report, _, _, h₁, h₂, -⟩ := ends_bind_iff.1 h
  obtain ⟨r, hstart, rfl⟩ := ends_onRegistry h₁
  have hr := backed_of_ends (guards_startSessions _) hstart hg
  have h₃ := ends_look_bind_iff.1 h₂
  cases hopen : openApi { g with registry := r } with
  | error e =>
    simp only [hopen] at h₃
    exact absurd (ends_giveUp h₃).1 nofun
  | ok api =>
    simp only [hopen] at h₃
    obtain ⟨_, outcome, _, _, h₄, h₅, -⟩ := ends_bind_iff.1 (ends_change_bind_iff.1 h₃)
    obtain ⟨r₁, hlaunches, rfl⟩ := ends_onRegistry h₄
    have hr₁ := backed_of_ends (guards_of_errand (errand_prespawnAll _ _)) hlaunches hr
    cases outcome with
    | error e => exact absurd (ends_giveUp h₅).1 nofun
    | ok _ =>
      obtain ⟨-, rfl, -⟩ := ends_done_iff.1 h₅
      refine ⟨⟨g.catalog, hcatalog, ?_⟩, hr₁⟩
      rw [← huse]
      exact openApi_eq_ok hopen

theorem eq_of_beginServing {calls : Calls}
    (h : (beginServing (.ok ())).Ends Passes g calls g' (.ok ())) :
    g' = { g with control := g'.control } := by
  have h₂ := ends_look_bind_iff.1 h
  split at h₂
  · have h₃ := ends_change_bind_iff.1 h₂
    obtain ⟨-, rfl, -⟩ := ends_done_iff.1 h₃
    rfl
  · exact absurd (ends_giveUp h₂).1 nofun

/-- A gateway that begins to serve offers and does what its configuration says. -/
theorem orderly_of_serves {calls : Calls} (h : Serves c parts control calls g) :
    Orderly c parts 0 g := by
  cases h with
  | intro hprepare hbring hserve =>
    obtain ⟨hconfig, hcatalog, huse, hbacked⟩ := prepare_eq_ok hprepare
    have horderly := orderly_of_bring hconfig hcatalog huse hbacked hbring
    rw [eq_of_beginServing hserve]
    exact ⟨horderly.opens, horderly.backed⟩

/-! ## What can happen to it

Clients and the gateway's own task wait side by side. Both hold their slots, and each step is one of
either. -/

/-- Those whom the gateway's own task has wait for it. -/
def Duty.waiting : Duty S → Waiters S
  | .looping => []
  | .closing _ left => left
  | .done _ => []

/-- All who wait hold their slots. -/
def Shift.Secure (c : Config) (parts : Parts S) (s : Shift S) : Prop :=
  Pool.Secure (Orderly c parts) (rulesOf c parts).Permits
    ⟨s.pool.state, s.pool.waiting ++ s.duty.waiting⟩

omit [SessionStore S] in
/-- Others go on, and the gateway's own task waits as before. -/
theorem secure_beside {own l : Waiters S} {a : Activity (Gateway S) Unit}
    (h : Pool.Secure (Orderly c parts) (rulesOf c parts).Permits (Pool.enter ⟨g, l ++ own⟩ a)) :
    Pool.Secure (Orderly c parts) (rulesOf c parts).Permits
      ⟨(Pool.enter ⟨g, l⟩ a).state, (Pool.enter ⟨g, l⟩ a).waiting ++ own⟩ := by
  rw [Pool.enter_eq] at h ⊢
  refine h.perm ?_
  rw [List.append_assoc, List.append_assoc]
  exact List.perm_append_comm.append_left _

omit [SessionStore S] in
/-- The gateway's own task goes on, and the others wait as before. -/
theorem secure_own {l left : Waiters S} {a : Activity (Gateway S) Unit}
    (h : Pool.Secure (Orderly c parts) (rulesOf c parts).Permits (Pool.enter ⟨g, l⟩ a))
    (henter : (Pool.quiet g).enter a = ⟨g', left⟩) :
    Pool.Secure (Orderly c parts) (rulesOf c parts).Permits ⟨g', l ++ left⟩ := by
  rwa [Pool.enter_eq, henter] at h

/-- One case for each thing that can happen. -/
theorem secure_of_step {s s' : Shift S} (hs : s.Secure c parts) (h : Step s s') :
    s'.Secure c parts := by
  unfold Shift.Secure at hs ⊢
  cases h with
  | asked _ ha =>
    exact secure_beside (Pool.secure_enter Orderly.less (guards_asked ofRegistry_orderly ha) hs)
  | answered _ =>
    rw [List.append_assoc, List.cons_append] at hs
    refine secure_beside ?_
    rw [List.append_assoc]
    exact Pool.secure_answered Orderly.less hs
  | givenUp =>
    rw [List.append_assoc, List.cons_append] at hs
    rw [List.append_assoc]
    exact Pool.secure_givenUp Orderly.less hs
  | prompted p => exact hs.change fun held hg => ⟨hg.opens, hg.backed⟩
  | passed millis => exact hs.change fun held hg => hg.passes ⟨_, ⟨millis, rfl⟩, rfl⟩
  | loops => exact hs.change fun held hg => ⟨hg.opens, hg.backed⟩
  | closes _ henter =>
    rw [show Duty.waiting .looping = ([] : Waiters S) from rfl, List.append_nil] at hs
    exact secure_own
      (Pool.secure_enter Orderly.less (guards_shutdownAll ofRegistry_orderly) hs) henter
  | @goesOn log before g g' waiting left w reply _ henter =>
    have hgoes : Pool.Secure (Orderly c parts) (rulesOf c parts).Permits
        (Pool.enter ⟨g, waiting ++ []⟩ (w.next reply)) :=
      Pool.secure_answered Orderly.less hs
    rw [List.append_nil] at hgoes
    exact secure_own hgoes henter
  | returns => exact hs.change fun held hg => ⟨hg.opens, hg.backed⟩

/-- Whatever happens to a gateway that serves, it offers and does what its configuration says, with
a slot for each kernel that it tracks. -/
theorem orderly_of_runs {calls : Calls} {s : Shift S} (hserves : Serves c parts control calls g)
    (h : Runs ⟨historyOf calls, .looping, .quiet g⟩ s) : Orderly c parts 0 s.pool.state := by
  have hsecure : s.Secure c parts := by
    induction h with
    | refl => exact Pool.Secure.quiet (orderly_of_serves hserves)
    | tail _ hstep ih => exact secure_of_step ih hstep
  have horderly := Pool.Secure.state Orderly.less hsecure
  exact horderly

end Gateway

end KernelGate
