import KernelGate.Proofs.Fleet.Traffic

/-!
# The ledger is kept in balance

While any number of launches, takeovers and shutdowns are under way on a fleet, a user's count in
the ledger is that of the user's kernels that are tracked and of the user's launches that wait for
the launcher. A kernel that is being ended is neither tracked nor counted, and comes back to both if
it cannot be ended.

Main statements: `Traffic.Sound` is what carries the balance; `Traffic.Sound.moves` and
`sound_of_reaches` keep it through a step and through a run.
-/

namespace KernelGate

namespace Fleet

/-- The ledger is in balance with the kernels and the calls, and no kernel is in two hands. -/
structure Traffic.Sound (t : Traffic) : Prop where
  keyed : t.fleet.Keyed
  tidy : t.fleet.ledger.Tidy
  /-- Calls that wait are about different kernels. -/
  apart : (t.stages.map Stage.id).Nodup
  /-- Nobody waits for a kernel that is tracked. -/
  untracked : ∀ s ∈ t.stages, t.fleet.kernels.get? s.id = none
  balanced : ∀ user, t.fleet.ledger.active user =
    t.fleet.tracked (ownedBy user) + countStages t.stages .launch (ownedBy user)

namespace Traffic

variable {f g : Fleet} {stages : List Stage} {t t' : Traffic}

/-- A fleet that has just started, with no calls. -/
theorem sound_empty (rules : FleetRules) (limit : Int) (supply : Supply) :
    Sound ⟨empty rules limit supply, []⟩ where
  keyed := keyed_empty rules limit supply
  tidy := Ledger.tidy_empty limit
  apart := List.nodup_nil
  untracked := by
    intro s hs
    cases hs
  balanced := by
    intro user
    rfl

/-- The order in which calls are listed does not count. -/
theorem Sound.perm {stages' : List Stage} (h : Sound ⟨f, stages⟩) (hperm : stages.Perm stages') :
    Sound ⟨f, stages'⟩ where
  keyed := h.keyed
  tidy := h.tidy
  apart := (hperm.map Stage.id).nodup_iff.1 h.apart
  untracked := by
    intro s hs
    exact h.untracked s (hperm.mem_iff.2 hs)
  balanced := by
    intro user
    unfold countStages
    rw [← hperm.countP_eq]
    exact h.balanced user

/-- What is to be shown once it is known what kernels and ledger have become. -/
theorem sound_of_becomes {kernels : Dict Tracked} {l : Ledger} (hg : f.Becomes kernels l g)
    (hkeyed : g.Keyed) (htidy : l.Tidy) (hapart : (stages.map Stage.id).Nodup)
    (huntracked : ∀ s ∈ stages, kernels.get? s.id = none)
    (hbalanced : ∀ user,
      l.active user = g.tracked (ownedBy user) + countStages stages .launch (ownedBy user)) :
    Sound ⟨g, stages⟩ := by
  obtain ⟨-, rfl, rfl⟩ := hg
  exact ⟨hkeyed, htidy, hapart, huntracked, hbalanced⟩

/-- Neither kernels nor ledger have changed. -/
theorem Sound.congr (h : Sound ⟨f, stages⟩) (hg : f.Becomes f.kernels f.ledger g) :
    Sound ⟨g, stages⟩ := by
  refine sound_of_becomes hg (h.keyed.congr hg.kernels) h.tidy h.apart h.untracked ?_
  intro user
  rw [tracked_congr hg.kernels]
  exact h.balanced user

/-! ## Calls that begin

An operation that begins puts its call behind those that wait. It is to be about a kernel that
nobody waits for (`Clear`), since two calls about one kernel would each count it. -/

/-- A call about a kernel that is in nobody's hands joins the others. -/
theorem apart_append (h : Sound ⟨f, stages⟩) {s : Stage} (hnew : ∀ s' ∈ stages, s'.id ≠ s.id) :
    ((stages ++ [s]).map Stage.id).Nodup := by
  rw [List.map_append, List.map_singleton, List.nodup_append]
  refine ⟨h.apart, by simp, ?_⟩
  intro id hid id' hid'
  obtain ⟨s', hs', rfl⟩ := List.mem_map.1 hid
  rw [List.mem_singleton.1 hid']
  exact hnew s' hs'

/-- A launch that is let through is counted at once, as one that waits. -/
theorem Sound.admitted (h : Sound ⟨f, stages⟩) {r : LaunchRequest}
    (hfree : f.kernels.get? r.handle.id = none) (hnew : ∀ s ∈ stages, s.id ≠ r.handle.id)
    (hg : f.Becomes f.kernels (f.ledger.restore r.handle.user) g) :
    Sound ⟨g, stages ++ [.launching r]⟩ := by
  refine sound_of_becomes hg (h.keyed.congr hg.kernels) (h.tidy.restore _) (apart_append h hnew)
    ?_ ?_
  · intro s hs
    rcases List.mem_append.1 hs with hs | hs
    · exact h.untracked s hs
    · rw [List.mem_singleton.1 hs]
      exact hfree
  · intro user
    have hb : f.ledger.active user = f.tracked _ + countStages stages _ _ := h.balanced user
    rw [active_restore_owner, tracked_congr hg.kernels, countStages_append,
      countStages_launching, countStages_nil, hb]
    omega

/-- A takeover that begins is counted nowhere. -/
theorem Sound.sought (h : Sound ⟨f, stages⟩) {limit : Option Nat} {k : KernelHandle}
    (hfree : f.kernels.get? k.id = none) (hnew : ∀ s ∈ stages, s.id ≠ k.id) :
    Sound ⟨f, stages ++ [.probing limit k]⟩ where
  keyed := h.keyed
  tidy := h.tidy
  apart := apart_append h hnew
  untracked := by
    intro s hs
    rcases List.mem_append.1 hs with hs | hs
    · exact h.untracked s hs
    · rw [List.mem_singleton.1 hs]
      exact hfree
  balanced := by
    intro user
    rw [countStages_append, countStages_probing, countStages_nil]
    exact h.balanced user

/-- A kernel that is to be ended leaves its count together with the kernels that are tracked. -/
theorem Sound.taken (h : Sound ⟨f, stages⟩) {id : String} {k : Tracked}
    (hget : f.kernels.get? id = some k)
    (hg : f.Becomes (f.kernels.erase id) (f.ledger.release k.handle.user) g) :
    Sound ⟨g, stages ++ [.ending k]⟩ := by
  have hid : k.handle.id = id := h.keyed id k hget
  -- The kernel was tracked, so that no other call can be about it.
  have hnew : ∀ s ∈ stages, s.id ≠ k.handle.id := by
    intro s hs heq
    have hnone : f.kernels.get? s.id = none := h.untracked s hs
    rw [heq, hid, hget] at hnone
    cases hnone
  refine sound_of_becomes hg (h.keyed.erase hg.kernels) (h.tidy.release _) (apart_append h hnew)
    ?_ ?_
  · intro s hs
    rw [Dict.get?_erase]
    split
    · rfl
    · next hne =>
      rcases List.mem_append.1 hs with hs | hs
      · exact h.untracked s hs
      · rw [List.mem_singleton.1 hs] at hne
        exact absurd hid hne
  · intro user
    have hb : f.ledger.active user = f.tracked _ + countStages stages _ _ := h.balanced user
    have ht := tracked_of_erase hg.kernels hget (ownedBy user)
    rw [active_release_owner, countStages_append, countStages_ending, countStages_nil, hb, ht]
    omega

theorem Sound.begins (h : t.Sound) {op : Operation} (hclear : op.Clear t.pool)
    (hb : Begins t op t') : t'.Sound := by
  obtain ⟨f, stages⟩ := t
  cases hb with
  | nothing hg => exact h.congr hg
  | @admitted spec p r g _ _ hid hg =>
    have hfree : ¬ InUse (Traffic.pool ⟨f, stages⟩) r.handle.id := by
      rw [hid]
      exact hclear
    refine h.admitted ?_ ?_ hg
    · have hnot : ¬ f.kernels.contains r.handle.id = true := fun hk => hfree (.inl hk)
      simpa [Dict.contains] using hnot
    · intro s hs heq
      refine hfree (.inr ⟨s.waiting, List.mem_map_of_mem hs, ?_⟩)
      rw [Stage.call_waiting]
      exact heq
  | @sought limit k hnone =>
    refine h.sought hnone ?_
    intro s hs heq
    refine hclear s.waiting (List.mem_map_of_mem hs) ?_
    rw [Stage.call_waiting]
    exact heq
  | taken hget hg => exact h.taken hget hg

/-! ## Calls that are answered

An answer takes its call away from those that wait. What it was counted as goes to the kernels that
are tracked, or goes altogether. -/

section Answered

variable {s : Stage} {rest : List Stage} {l : Ledger}

/-- A call goes, and the kernels are the same. -/
theorem Sound.dropped (h : Sound ⟨f, s :: rest⟩) (hg : f.Becomes f.kernels l g) (htidy : l.Tidy)
    (hbalanced : ∀ user, l.active user =
      f.tracked (ownedBy user) + countStages rest .launch (ownedBy user)) :
    Sound ⟨g, rest⟩ := by
  have hapart : (rest.map Stage.id).Nodup := (List.nodup_cons.1 h.apart).2
  refine sound_of_becomes hg (h.keyed.congr hg.kernels) htidy hapart ?_ ?_
  · intro s' hs'
    exact h.untracked s' (List.mem_cons_of_mem _ hs')
  · intro user
    rw [tracked_congr hg.kernels]
    exact hbalanced user

/-- A call goes, and the kernel that it was about is tracked. -/
theorem Sound.filed (h : Sound ⟨f, s :: rest⟩) {k : Tracked} (hid : k.handle.id = s.id)
    (hg : f.Becomes (f.kernels.insert k.handle.id k) l g) (htidy : l.Tidy)
    (hbalanced : ∀ user, l.active user =
      f.tracked (ownedBy user) + countStages rest .launch (ownedBy user) +
        if ownedBy user k.handle then 1 else 0) :
    Sound ⟨g, rest⟩ := by
  obtain ⟨hother, hapart⟩ := List.nodup_cons.1 h.apart
  refine sound_of_becomes hg (h.keyed.insert hg.kernels) htidy hapart ?_ ?_
  · intro s' hs'
    -- No two calls are about one kernel, so that those which still wait are about others.
    have hne : s'.id ≠ k.handle.id := by
      intro heq
      rw [hid] at heq
      exact hother (List.mem_map.2 ⟨s', hs', heq⟩)
    rw [Dict.get?_insert, if_neg hne]
    exact h.untracked s' (List.mem_cons_of_mem _ hs')
  · intro user
    have hnone : f.kernels.get? k.handle.id = none := by
      rw [hid]
      exact h.untracked s List.mem_cons_self
    rw [tracked_of_insert hg.kernels hnone, hbalanced user]
    omega

/-- One case for each outcome: either the kernel is filed, or the call is dropped. -/
theorem Sound.outcome (h : Sound ⟨f, s :: rest⟩) (ho : s.Outcome f g) : Sound ⟨g, rest⟩ := by
  have hb : ∀ user, f.ledger.active user =
    f.tracked (ownedBy user) + countStages (s :: rest) .launch (ownedBy user) := h.balanced
  cases ho with
  | @launched r k _ hk hg =>
    refine h.filed (congrArg KernelHandle.id hk) hg h.tidy ?_
    intro user
    rw [hb, countStages_launching, hk]
    omega
  | failed hg =>
    refine h.dropped hg (h.tidy.release _) ?_
    intro user
    rw [active_release_owner, hb, countStages_launching]
    omega
  | found hg =>
    refine h.filed rfl hg (h.tidy.restore _) ?_
    intro user
    rw [active_restore_owner, hb, countStages_probing]
  | lost =>
    refine h.dropped (.rfl f) h.tidy ?_
    intro user
    rw [hb, countStages_probing]
  | ended =>
    refine h.dropped (.rfl f) h.tidy ?_
    intro user
    rw [hb, countStages_ending]
  | kept hg =>
    refine h.filed rfl hg (h.tidy.restore _) ?_
    intro user
    rw [active_restore_owner, hb, countStages_ending]

end Answered

/-! ## Runs

By induction on the run, since every step keeps the balance. -/

/-- Whatever happens next, the ledger is kept in balance. -/
theorem Sound.moves {allowed : Operation → Prop} (h : t.Sound) (hm : Moves allowed t t') :
    t'.Sound := by
  cases hm with
  | pass millis => exact h.congr ⟨rfl, rfl, rfl⟩
  | begins _ hclear hb => exact h.begins hclear hb
  | answered hstages ho =>
    obtain ⟨f, stages⟩ := t
    cases hstages
    -- The order of the calls is nothing to the balance: whoever is answered may stand first.
    exact (h.perm List.perm_middle).outcome ho

end Traffic

/-- Whatever a fleet that starts empty comes to, its pool is that of traffic in balance. -/
theorem sound_of_reaches {allowed : Operation → Prop} {rules : FleetRules} {limit : Int}
    {supply : Supply} {p : Pool Fleet Unit}
    (h : Pool.Reaches (May allowed) (.quiet (empty rules limit supply)) p) :
    ∃ t : Traffic, p = t.pool ∧ t.Sound := by
  refine Pool.invariant_of_reaches (fun p => ∃ t : Traffic, p = t.pool ∧ t.Sound) ?_ ?_ h
  · rintro p q ⟨t, rfl, ht⟩ hs
    obtain ⟨t', rfl, hm⟩ := moves_of_step ht.tidy hs
    exact ⟨t', rfl, ht.moves hm⟩
  · exact ⟨⟨empty rules limit supply, []⟩, rfl, Traffic.sound_empty rules limit supply⟩

/-! ## The balance

In a run from an empty fleet the balance holds at any time, so that it can be read off any state the
run comes to. -/

/-- A user's count is that of the kernels that are tracked and of the launches that wait, and there
is an entry for the user just as long as there are any. -/
theorem active_eq_tracked_add_launching {rules : FleetRules} {limit : Int} {supply : Supply}
    {p : Pool Fleet Unit}
    (h : Pool.Reaches (May fun _ => True) (.quiet (empty rules limit supply)) p) (user : String) :
    p.state.ledger.active user =
        p.state.tracked (ownedBy user) + pending p .launch (ownedBy user) ∧
      (p.state.ledger.counts.contains user = true ↔
        0 < p.state.tracked (ownedBy user) + pending p .launch (ownedBy user)) := by
  obtain ⟨t, rfl, ht⟩ := sound_of_reaches h
  have hbalanced : t.pool.state.ledger.active user =
      t.pool.state.tracked (ownedBy user) + pending t.pool .launch (ownedBy user) := by
    rw [pending_pool]
    exact ht.balanced user
  refine ⟨hbalanced, ?_⟩
  rw [← hbalanced]
  exact Ledger.contains_iff_active_pos ht.tidy user

/-- Of a user's three kernels one runs, one is being launched, and one is being ended. -/
def busy : Pool Fleet Unit :=
  ((((((Pool.quiet (empty (openRules none) (-1) plainSupply)).enter
    (launchFor "bob").activity).resume 0 (some (.ok ()))).enter
    (launchFor "bob").activity).resume 0 (some (.ok ()))).enter
    (Operation.shutdown "a").activity).enter (launchFor "bob").activity

/-- One of bob's kernels counts as tracked, one as being launched, and the one that is being ended
does not count: two slots in all. -/
theorem balance_of_busy :
    Pool.Reaches (May fun _ => True) (.quiet (empty (openRules none) (-1) plainSupply)) busy ∧
      busy.state.tracked (ownedBy "bob") = 1 ∧ pending busy .launch (ownedBy "bob") = 1 ∧
      busy.state.ledger.active "bob" = 2 ∧ busy.state.ledger.counts.contains "bob" = true := by
  have h : Pool.Reaches (May fun _ => True) (.quiet (empty (openRules none) (-1) plainSupply))
      busy := by
    refine reaches_enter (reaches_enter ?_ trivial (by decide +kernel)) trivial (by decide +kernel)
    refine Pool.Reaches.resume (reaches_enter ?_ trivial (by decide +kernel)) (by decide +kernel) _
    refine Pool.Reaches.resume (reaches_enter ?_ trivial (by decide +kernel)) (by decide +kernel) _
    exact .refl
  have htracked : busy.state.tracked (ownedBy "bob") = 1 := by decide +kernel
  have hpending : pending busy .launch (ownedBy "bob") = 1 := by decide +kernel
  obtain ⟨hactive, hentry⟩ := active_eq_tracked_add_launching h "bob"
  rw [htracked, hpending] at hactive hentry
  exact ⟨h, htracked, hpending, hactive, hentry.2 (by decide)⟩

end Fleet

end KernelGate
