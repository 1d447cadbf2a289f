import KernelGate.Proofs.Kernel.Catalog
import KernelGate.Proofs.Lifecycle.Rollback

/-!
# The second part of a start

Once its parts are put together, a gateway takes over the kernels of earlier runs, opens the
interface for clients, and launches the kernels that wait for them. Where this stops decides what
has to be taken back: nothing, or the kernels that the gateway has launched itself.

Main statement: `bring_of_ends`, by which `Brought` lists all that can happen after the recovery.
-/

namespace KernelGate

open Activity Registry

/-! ## Parts of a start

The steps of a start, each by what it leaves: which checks it depends on, what it asks of the
launcher, and what becomes of the phase. -/

namespace Registry

variable {S : Type} {Holds : S → Dict SessionRecord → Prop} {r r' : Registry S}
  {d : Dict SessionRecord} {turns : List Turn} {report : RecoveryReport} {calls : Calls}

/-- The records that are left are those of the sessions that were recovered. -/
theorem TookTurns.kept_eq (h : TookTurns Holds r d turns report r') (hfiled : Filed d) :
    d.without report.dropped = d.filter fun session _ => decide (session ∈ report.recovered) := by
  obtain ⟨-, -, hperm⟩ := h.reported_once
  refine Dict.filter_congr fun session record hget => decide_eq_decide.2 ?_
  have hsession : session ∈ d.values.map (·.sessionId) := by
    refine List.mem_map.2 ⟨record, Dict.mem_values.2 ⟨session, hget⟩, hfiled session record hget⟩
  have hnodup := hperm.nodup_iff.2 hfiled.nodup_sessions
  have hapart := List.disjoint_of_nodup_append hnodup
  rcases List.mem_append.1 (hperm.mem_iff.2 hsession) with hrecovered | hdropped
  · exact ⟨fun _ => hrecovered, fun _ hdropped => hapart hrecovered hdropped⟩
  · exact ⟨fun hkept => absurd hdropped hkept,
      fun hrecovered => absurd hdropped (hapart hrecovered)⟩

end Registry

namespace Gateway

variable {S : Type} {g g' : Gateway S} {calls : Calls} {x : Result Unit}

/-- A gateway as time goes on. -/
def Passes (g g' : Gateway S) : Prop :=
  ∃ r, Registry.Passes g.registry r ∧ g' = { g with registry := r }

theorem ends_onRegistry {α : Type} {a : Activity (Registry S) α} {x : α}
    (h : (onRegistry a).Ends Passes g calls g' x) :
    ∃ r, a.Ends Registry.Passes g.registry calls r x ∧ g' = { g with registry := r } := by
  unfold onRegistry at h
  refine Ends.of_zoom ?_ ?_ ?_ ?_ h
  · intro g r
    rfl
  · intro g r r'
    rfl
  · intro g
    rfl
  · intro g g' hpasses
    exact hpasses

/-- Clients can be served: the interface and the default kernel are known. -/
def Servable (c : Config) (catalog : Catalog) : Prop :=
  c.api = Api.name ∧ catalog.specs.contains c.defaultKernel = true

/-- Whether clients can be served is settled by the configuration and the catalog. -/
theorem exists_openApi_iff : (∃ api, g.openApi = .ok api) ↔ Servable g.config g.catalog := by
  unfold openApi Api.ofConfig Servable
  by_cases hname : g.config.api = Api.name
  · rw [if_pos hname]
    show (∃ api, Api.openKernels _ g.config g.catalog g.tracksUse = .ok api) ↔ _
    unfold Api.openKernels Catalog.get Dict.contains
    cases g.catalog.specs.get? g.config.defaultKernel <;> simp [hname]
  · rw [if_neg hname]
    simp [hname]
    rintro api ⟨⟩

variable [SessionStore S] {Usable : String → Prop} {Holds : S → Dict SessionRecord → Prop}
  {supply : Supply} {r r' : Registry S} {d : Dict SessionRecord}

/-- A start that is given up ends the kernels that it has launched, and then says why. -/
theorem ends_giveUp {e : Fault} (h : (giveUp e).Ends Passes g calls g' x) :
    x = .error e ∧ g'.control.phase = .stopped ∧
      shutdownStarted.Ends Registry.Passes g.registry calls g'.registry () := by
  obtain ⟨_, _, _, _, h₁, h₂, rfl⟩ := ends_bind_iff.1 h
  obtain ⟨r, hr, rfl⟩ := ends_onRegistry h₁
  have h₃ := ends_change_bind_iff.1 h₂
  obtain ⟨rfl, rfl, rfl⟩ := ends_done_iff.1 h₃
  rw [List.append_nil]
  exact ⟨rfl, rfl, hr⟩

/-- The kernels that the configuration asks for are launched one after another. -/
theorem prespawnAll_of_ends {c : Config} {catalog : Catalog} (hs : Reliable Usable Holds)
    (hfresh : Function.Injective supply.kernelId) (hnamed : Function.Injective supply.sessionId)
    (husable : ∀ n, Usable (supply.sessionId n))
    (hknown : catalog.specs.contains c.defaultKernel = true) (hr : InStep Holds supply [] r [] d)
    (h : (prespawnAll c catalog).Ends Registry.Passes r calls r' x) :
    ∃ made d' tail, calls = made.map Spawn.call ++ tail ∧ Spawned r d made r' d' ∧
      Prespawned made (c.prespawn?.getD 0) r' tail x ∧
      InStep Holds supply (historyOf calls) r' [] d' := by
  obtain ⟨spec, hspec⟩ := Dict.contains_iff.1 hknown
  have hget : catalog.get c.defaultKernel = .ok spec := by
    unfold Catalog.get
    rw [hspec]
  have hprespawn : prespawnAll (S := S) c catalog = prespawn spec (c.prespawn?.getD 0) := by
    unfold prespawnAll
    rw [hget]
    cases c.prespawn?.getD 0 <;> rfl
  rw [hprespawn] at h
  exact prespawn_of_ends hs hfresh hnamed husable hr h

/-! ## What a start does once it has taken kernels over

The kernels that are taken over are there by now, and stay whatever happens. The launches that were
made for clients are taken back if one of them fails. -/

/-- All that a start may do with the kernels and records that it has taken over, and what becomes
of them: clients cannot be served; or all kernels that are to wait for them are launched; or one is
not, and those before it are ended again. -/
inductive Brought (Holds : S → Dict SessionRecord → Prop) (g : Gateway S) (r : Registry S)
    (d : Dict SessionRecord) : Calls → Gateway S → Result Unit → Prop where
  | closed {g' : Gateway S} {e : Fault} : ¬ Servable g.config g.catalog →
      Holds g'.registry.store d → g'.control.phase = .stopped → Brought Holds g r d [] g' (.error e)
  | up {g' : Gateway S} {made : List Spawn} {d' : Dict SessionRecord} :
      Servable g.config g.catalog → Spawned r d made g'.registry d' →
      Prespawned made (g.config.prespawn?.getD 0) g'.registry [] (.ok ()) →
      Brought Holds g r d (made.map Spawn.call) g' (.ok ())
  | down {g' : Gateway S} {made : List Spawn} {r₁ : Registry S} {d₁ d' : Dict SessionRecord}
      {tail : Calls} {answers : Answers} {e : Fault} :
      Servable g.config g.catalog → Spawned r d made r₁ d₁ →
      Prespawned made (g.config.prespawn?.getD 0) r₁ tail (.error e) →
      RolledBack r d made (terminationsOf answers.terminations) d' → Holds g'.registry.store d' →
      g'.control.phase = .stopped →
      Brought Holds g r d (made.map Spawn.call ++ tail ++ answers.terminations) g' (.error e)

omit [SessionStore S] in
theorem Prespawned.launchesOf_tail {made : List Spawn} {count : Nat} {tail : Calls}
    (h : Prespawned made count r tail x) : launchesOf tail = [] ∧ terminationsOf tail = [] := by
  cases h <;> exact ⟨rfl, rfl⟩

omit [SessionStore S] in
/-- Where nothing was launched, nothing has to be taken back. -/
theorem eq_nil_of_rolledBack {d' : Dict SessionRecord} {answers : Answers}
    (h : RolledBack r d [] (terminationsOf answers.terminations) d') : answers = [] ∧ d' = d := by
  have honce := h.once
  rw [terminationsOf_terminations, List.map_map, List.map_nil, List.perm_nil,
    List.map_eq_nil_iff] at honce
  refine ⟨honce, Dict.ext_get? fun session => Option.ext fun record => ?_⟩
  rw [h.records]
  simp

/-- All that the second part of a start may do. -/
theorem bring_of_ends (hs : Reliable Usable Holds) {rules : FleetRules} {limit : Int} {store : S}
    {recoveryLimit : Nat} (hg : g.registry = .new (.empty rules limit supply) store recoveryLimit)
    (hd : Holds store d) (hfresh : supply.FreshFor d) (husable : ∀ n, Usable (supply.sessionId n))
    (h : bring.Ends Passes g calls g' x) :
    ∃ before after report r, calls = before ++ after ∧
      startSessions.Ends Registry.Passes g.registry before r report ∧
      Brought Holds g r (d.without report.dropped) after g' x := by
  obtain ⟨_, report, before, after, h₁, h₂, rfl⟩ := ends_bind_iff.1 h
  obtain ⟨r, hstart, rfl⟩ := ends_onRegistry h₁
  refine ⟨before, after, report, r, rfl, hstart, ?_⟩
  rw [hg] at hstart
  obtain ⟨turns, -, hturns⟩ := exists_tookTurns hs hd hstart
  have hr : InStep Holds supply [] r [] (d.without report.dropped) :=
    hturns.inStep (hs.filed hd) hfresh
  have h₃ := ends_look_bind_iff.1 h₂
  cases hopen : openApi { g with registry := r } with
  | error e =>
    simp only [hopen] at h₃
    -- Clients cannot be served, and nothing was launched that would be taken back.
    obtain ⟨rfl, hphase, hshut⟩ := ends_giveUp h₃
    have hnone : InStep Holds supply (historyOf []) r [] (d.without report.dropped) := hr
    obtain ⟨answers, d', rfl, hstore, hback⟩ :=
      rolledBack_of_ends hs hr (.nil ⟨rfl, rfl, rfl, rfl⟩) hnone rfl hshut
    obtain ⟨rfl, rfl⟩ := eq_nil_of_rolledBack hback
    refine .closed (fun hservable => ?_) hstore hphase
    obtain ⟨api, hapi⟩ := exists_openApi_iff (g := { g with registry := r }).2 hservable
    rw [hopen] at hapi
    cases hapi
  | ok api =>
    simp only [hopen] at h₃
    have hservable : Servable g.config g.catalog :=
      exists_openApi_iff (g := { g with registry := r }).1 ⟨api, hopen⟩
    obtain ⟨_, outcome, launches, rest, h₄, h₅, rfl⟩ := ends_bind_iff.1 (ends_change_bind_iff.1 h₃)
    obtain ⟨r₁, hlaunches, rfl⟩ := ends_onRegistry h₄
    obtain ⟨made, d₁, tail, rfl, hspawned, hprespawned, hr₁⟩ :=
      prespawnAll_of_ends hs hfresh.kernels hfresh.sessions husable hservable.2 hr hlaunches
    cases outcome with
    | ok _ =>
      obtain ⟨rfl, rfl, rfl⟩ := ends_done_iff.1 h₅
      obtain rfl : tail = [] := by
        cases hprespawned
        rfl
      rw [List.append_nil, List.append_nil]
      exact .up hservable hspawned hprespawned
    | error e =>
      obtain ⟨rfl, hphase, hshut⟩ := ends_giveUp h₅
      -- The launch that failed is in the record too, but it launched nothing.
      have hmade : launchesOf (made.map Spawn.call ++ tail) = made.map (·.request) := by
        rw [launchesOf_append, launchesOf_spawns, hprespawned.launchesOf_tail.1, List.append_nil]
      obtain ⟨answers, d', rfl, hstore, hback⟩ :=
        rolledBack_of_ends hs hr hspawned hr₁ hmade hshut
      exact .down hservable hspawned hprespawned hback hstore hphase

end Gateway

end KernelGate
