import KernelGate.Proofs.Registry.Chore

/-!
# Kernels that are found again

When a gateway starts, kernels of an earlier run come to be tracked, whatever the store does and the
launcher answers. They have their names from records, so that a name that is given later is that of
a kernel which this run has launched.

Main statement: `attended_of_startSessions`.
-/

namespace KernelGate

open Activity

namespace Fleet

variable {f g h : Fleet} {calls calls' : Calls} {handles handles' : List KernelHandle}

/-- Kernels have been asked after, and some of them may be tracked now. -/
structure Finds (f : Fleet) (handles : List KernelHandle) (calls : Calls) (g : Fleet) : Prop where
  supply : g.supply = f.supply
  probes : ∀ e ∈ calls, e.1.kind = .probe
  found : ∀ id k, g.get? id = some k → f.get? id = some k ∨ k ∈ handles ∧ k.id = id

theorem finds_self (f : Fleet) : f.Finds [] [] f :=
  ⟨rfl, List.forall_mem_nil _, fun _ _ => .inl⟩

theorem Finds.of_same (hg : g.Finds handles calls h) (hsupply : g.supply = f.supply)
    (hkernels : g.kernels = f.kernels) : f.Finds handles calls h where
  supply := hg.supply.trans hsupply
  probes := hg.probes
  found := by
    intro id k hget
    rw [← get?_congr hkernels]
    exact hg.found id k hget

/-- Kernels that were found stay found while others are looked for. -/
theorem Finds.trans (hf : f.Finds handles calls g) (hg : g.Finds handles' calls' h) :
    f.Finds (handles ++ handles') (calls ++ calls') h where
  supply := hg.supply.trans hf.supply
  probes := by
    intro e he
    rcases List.mem_append.1 he with he | he
    · exact hf.probes e he
    · exact hg.probes e he
  found := by
    intro id k hget
    rcases hg.found id k hget with hget | ⟨hmem, hid⟩
    · rcases hf.found id k hget with hget | ⟨hmem, hid⟩
      · exact .inl hget
      · exact .inr ⟨List.mem_append_left _ hmem, hid⟩
    · exact .inr ⟨List.mem_append_right _ hmem, hid⟩

/-- A takeover asks after its own kernel only, and tracks no other. -/
theorem finds_of_ends {limit : Option Nat} {k : KernelHandle} {x : Result Unit}
    (hends : (reattach limit k).Ends Passes f calls g x) : f.Finds [k] calls g := by
  have h₂ := ends_look_bind_iff.1 hends
  split at h₂
  · obtain ⟨rfl, rfl, -⟩ := ends_done_iff.1 h₂
    exact ⟨rfl, List.forall_mem_nil _, fun _ _ => .inl⟩
  · obtain ⟨_, reply, _, ⟨millis, rfl⟩, -, rfl, h₃⟩ := ends_call_iff.1 h₂
    rcases reply with _ | e | _
    · obtain ⟨rfl, rfl, -⟩ := ends_done_iff.1 h₃
      exact ⟨rfl, List.forall_mem_singleton.2 rfl, fun _ _ => .inl⟩
    · obtain ⟨rfl, rfl, -⟩ := ends_done_iff.1 h₃
      exact ⟨rfl, List.forall_mem_singleton.2 rfl, fun _ _ => .inl⟩
    · have h₄ := ends_step_iff.1 h₃
      obtain ⟨rfl, rfl, -⟩ := ends_done_iff.1 h₄
      refine ⟨rfl, List.forall_mem_singleton.2 rfl, fun id k' hget => ?_⟩
      have hshows : f.Shows ((f.later millis).adopt k) (Function.update f.get? k.id (some k)) :=
        shows_of_insert (k := ⟨k, f.now + millis⟩) rfl rfl rfl
      rw [hshows.get?, Function.update_apply] at hget
      split at hget
      · next hid =>
        cases hget
        exact .inr ⟨List.mem_singleton_self _, hid.symm⟩
      · exact .inl hget

/-- Kernels that a new fleet tracks because they were found have their names from elsewhere. -/
theorem Finds.attended {rules : FleetRules} {limit : Int} {supply : Supply}
    (hg : (empty rules limit supply).Finds handles calls g)
    (hunused : ∀ k ∈ handles, ∀ n, k.id ≠ supply.kernelId n) :
    Attended supply ⟨historyOf calls, g, []⟩ := by
  have hfound : ∀ id k, g.get? id = some k → k ∈ handles ∧ k.id = id := by
    intro id k hget
    exact (hg.found id k hget).resolve_left nofun
  have hkind : ∀ e ∈ historyOf calls, e.1.kind = .probe := by
    intro e he
    obtain ⟨e', he', rfl⟩ := List.mem_map.1 he
    exact hg.probes e' he'
  have hunnoticed : ∀ id, ¬ History.Noticed (historyOf calls) id := by
    rintro id ⟨e, he, hterminate, -⟩
    exact absurd ((hkind e he).symm.trans hterminate) nofun
  refine ⟨⟨hg.supply, ?_, nofun, List.nodup_nil, nofun, ?_, ?_⟩, ?_⟩
  · exact fun id k hget => (hfound id k hget).2
  · refine fun n _ => ⟨?_, nofun, hunnoticed _⟩
    refine Option.eq_none_iff_forall_ne_some.2 fun k hget => ?_
    obtain ⟨hmem, hid⟩ := hfound _ k hget
    exact hunused k hmem n hid
  · intro id fate _ hending
    exact absurd (History.noticed_iff.2 ⟨fate, hending⟩) (hunnoticed id)
  · rintro id ⟨request, he, -⟩
    exact absurd (hkind _ he) nofun

end Fleet

namespace Registry

variable {S : Type} [SessionStore S] {r r' : Registry S} {calls : Calls} {report : RecoveryReport}

/-- A recovery asks after the kernels of its records only. -/
theorem finds_of_recoverEach {limit : Nat} {found : List SessionRecord}
    (h : (recoverEach limit found).Ends Passes r calls r' report) :
    r.fleet.Finds (found.map (·.kernel)) calls r'.fleet := by
  induction found generalizing r calls report with
  | nil =>
    obtain ⟨rfl, rfl, -⟩ := ends_done_iff.1 h
    exact Fleet.finds_self _
  | cons record rest ih =>
    obtain ⟨_, x, first, others, h₁, h₂, rfl⟩ := ends_bind_iff.1 h
    obtain ⟨g, hg, rfl⟩ := ends_onFleet h₁
    have hfirst := Fleet.finds_of_ends hg
    refine Fleet.Finds.trans hfirst ?_
    cases x with
    | ok _ =>
      obtain ⟨_, h₃, -⟩ := ends_map_iff.1 (ends_change_bind_iff.1 h₂)
      exact (ih h₃).of_same rfl rfl
    | error _ =>
      obtain ⟨_, h₃, -⟩ := ends_map_iff.1 (ends_change_bind_iff.1 h₂)
      exact (ih h₃).of_same rfl rfl

/-- No record that the store lists is of a kernel with a name that is still to be given. -/
def Unused (supply : Supply) (store : S) : Prop :=
  ∀ record ∈ (SessionStore.list store).2.toOption.getD [], ∀ n,
    record.kernel.id ≠ supply.kernelId n

/-- When the recovery is over no call waits and nothing has been launched; names are still to be
given from the first one on. -/
theorem attended_of_startSessions {rules : FleetRules} {limit : Int} {supply : Supply} {store : S}
    {recoveryLimit : Nat} (hunused : Unused supply store)
    (h : startSessions.Ends Passes (new (.empty rules limit supply) store recoveryLimit) calls r
      report) : Fleet.Attended supply ⟨historyOf calls, r.fleet, []⟩ := by
  have h₂ := ends_look_bind_iff.1 h
  obtain ⟨r₁, found, _, others, h₃, h₄, rfl⟩ := ends_bind_iff.1 h₂
  obtain ⟨rfl, hrecords⟩ := ends_atOnce_iff.1 h₃
  cases hrecords
  refine Fleet.Finds.attended (finds_of_recoverEach h₄) fun k hmem n => ?_
  obtain ⟨record, hrecord, rfl⟩ := List.mem_map.1 hmem
  exact hunused record hrecord n

end Registry

end KernelGate
