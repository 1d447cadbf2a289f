import KernelGate.Proofs.Fleet.Admission
import KernelGate.Proofs.Registry.Alone

/-!
# What records say before and after a recovery

A gateway need not take over the kernels of an earlier run before it launches its own, nor at all.
Until it does, its store holds records of kernels that it does not track, and that it leaves alone.
All other records are of kernels that it tracks, and each kernel that it tracks has one. What it has
launched itself counts as started, and what it has taken over does not.

Main statements: `Steady` is what carries this, and `steady_of_ran` says that operations one at a
time keep it, whichever they are and whatever the launcher answers.
-/

namespace KernelGate

open Activity

/-- Calls that launch nothing leave it at what was launched. -/
theorem launched_append_of_forall {log calls : Calls}
    (h : ∀ request, (LauncherCall.launch request, some (.ok ())) ∉ calls) (id : String) :
    (historyOf (log ++ calls)).Launched id ↔ (historyOf log).Launched id := by
  rw [historyOf_append, History.launched_append]
  apply or_iff_left
  rintro ⟨request, hmem, -⟩
  obtain ⟨⟨call, reply⟩, he, heq⟩ := List.mem_map.1 hmem
  cases heq
  exact h request he

/-- A launch that succeeds adds its kernel. -/
theorem launched_append_launch {log : Calls} (request : LaunchRequest) (id : String) :
    (historyOf (log ++ [(.launch request, some (.ok ()))])).Launched id ↔
      (historyOf log).Launched id ∨ request.handle.id = id := by
  rw [historyOf_append]
  exact History.launched_append_iff

namespace Fleet

variable {f g : Fleet} {rules : FleetRules} {userLimit : Int} {supply : Supply} {log : Calls}

/-- One kernel more is tracked, and no other comes or goes. -/
theorem Gains.contains_iff {kernel : KernelHandle} (h : f.Gains kernel g) (id : String) :
    g.kernels.contains id = true ↔ id = kernel.id ∨ f.kernels.contains id = true := by
  by_cases hid : id = kernel.id
  · have htracked := h.tracked
    rw [contains_eq_isSome, hid, htracked]
    simp
  · rw [Dict.contains, h.others id hid]
    simp [hid, Dict.contains]

/-! ## Turns of records

The turn of a record keeps what is known of a fleet between operations. It uses up no name and no
host, and if it takes a kernel over, this is none with a name that is still to be given. -/

section

variable {limit : Nat} {t : Turn} {turns : List Turn}

/-- A kernel that is found comes with a slot, and one that is lost with nothing. -/
theorem Turned.balanced (h : Turned limit f t g) (hf : f.Balanced) : g.Balanced := by
  cases h with
  | known _ _ => exact hf.congr rfl rfl
  | @found record _ millis _ hnew _ => exact hf.insert (k := ⟨record.kernel, _⟩) hnew rfl rfl
  | lost _ _ _ _ => exact hf.congr rfl rfl

/-- A turn is about the kernel of its record alone. -/
theorem Turned.get?_of_ne (h : Turned limit f t g) {id : String} (hne : t.kernel.id ≠ id)
    (hnone : f.kernels.get? id = none) : g.kernels.get? id = none := by
  cases h with
  | known _ _ => exact hnone
  | found _ _ _ _ => exact (Dict.get?_insert_of_ne _ _ hne.symm).trans hnone
  | lost _ _ _ _ => exact hnone

/-- A record whose kernel does not have a name that is still to be given has its turn. -/
theorem Turned.routine (h : Turned limit f t g) (hf : Routine rules userLimit supply log f)
    (hknown : ∀ n, f.named ≤ n → t.kernel.id ≠ supply.kernelId n) :
    Routine rules userLimit supply (log ++ Talk.calls limit t.asked.toList) g := by
  have hrest := h.rest
  have hasked : ∀ e ∈ Talk.calls limit t.asked.toList, ∃ reply, e = (.probe t.kernel, reply) := by
    intro e he
    obtain ⟨e', he', rfl⟩ := List.mem_map.1 he
    obtain ⟨c, -, rfl⟩ := Option.map_eq_some_iff.1 (Option.mem_toList.1 he')
    exact ⟨_, rfl⟩
  have hlaunches : launches (Talk.calls limit t.asked.toList) = 0 := by
    rw [launches, List.countP_eq_zero]
    intro e he
    obtain ⟨reply, rfl⟩ := hasked e he
    simp [LauncherCall.kind]
  refine hf.go_on (h.balanced hf.balanced) ?rules h.userLimit ?supply ?named ?untracked ?fresh
    ?hosts
  case rules => rw [hrest]
  case supply => rw [hrest]
  case named => exact Nat.le_of_eq (by rw [hrest])
  case untracked =>
    intro n hn
    rw [hrest] at hn
    exact h.get?_of_ne (hknown n hn) (hf.untracked n hn)
  case fresh =>
    intro n hn e he
    rw [hrest] at hn
    obtain ⟨reply, rfl⟩ := hasked e he
    exact hknown n hn
  case hosts =>
    intro _
    rw [hlaunches, hrest]
    rfl

/-- So all turns keep it, one after another. -/
theorem Turns.routine (h : Turns limit f turns g) (hf : Routine rules userLimit supply log f)
    (hknown : ∀ t ∈ turns, ∀ n, f.named ≤ n → t.kernel.id ≠ supply.kernelId n) :
    Routine rules userLimit supply (log ++ Talk.calls limit (turns.filterMap (·.asked))) g := by
  induction h generalizing log with
  | nil f => rwa [List.filterMap_nil, show Talk.calls limit [] = [] from rfl, List.append_nil]
  | @cons f f₁ g t rest hturned _ ih =>
    obtain ⟨hfirst, hothers⟩ := List.forall_mem_cons.1 hknown
    have hnamed : f₁.named = f.named := by rw [hturned.rest]
    have hall := ih (hturned.routine hf hfirst) (by rwa [hnamed])
    have hsplit : Talk.calls limit ((t :: rest).filterMap (·.asked)) =
        Talk.calls limit t.asked.toList ++ Talk.calls limit (rest.filterMap (·.asked)) := by
      rw [List.filterMap_cons]
      cases t.asked <;> rfl
    rwa [hsplit, ← List.append_assoc]

end

end Fleet

namespace Registry

variable {S : Type} {Holds : S → Dict SessionRecord → Prop} {rules : FleetRules} {userLimit : Int}
  {supply : Supply} {unread unread' : SessionRecord → Prop} {log log' calls : Calls}
  {r r' : Registry S} {d d' : Dict SessionRecord}

/-- Where each kernel had a record, one that is tracked now has a record that was kept. -/
theorem TookTurns.exists_taken {turns : List Turn} {report : RecoveryReport}
    (h : TookTurns Holds r d turns report r')
    (hrecorded : ∀ id, r.fleet.kernels.contains id = true →
      ∃ record ∈ d.values, record.kernel.id = id)
    (id : String) (hid : r'.fleet.kernels.contains id = true) :
    ∃ t ∈ turns, t.taken r.recoveryLimit = true ∧ t.kernel.id = id := by
  by_cases hbefore : r.fleet.kernels.contains id = true
  · -- A kernel that was tracked before is not asked after, so that all its records are kept.
    obtain ⟨record, hmem, rfl⟩ := hrecorded id hbefore
    rw [← h.records] at hmem
    obtain ⟨t, ht, rfl⟩ := List.mem_map.1 hmem
    obtain ⟨before, after, hsplit⟩ := List.append_of_mem ht
    have hfleet := h.fleet
    rw [hsplit] at hfleet
    have hunprobed := hfleet.unprobed_iff.2 (.inl hbefore)
    refine ⟨t, ht, ?_, rfl⟩
    rw [Turn.taken, hunprobed]
    rfl
  · rw [Fleet.contains_eq_isSome] at hbefore
    rw [Fleet.contains_eq_isSome, h.fleet.get?, Option.isSome_or, Option.isSome_map,
      Bool.or_eq_true, or_iff_right hbefore, List.find?_isSome] at hid
    obtain ⟨t, ht, htakes⟩ := hid
    rw [Turn.takes, Bool.and_eq_true, decide_eq_true_eq] at htakes
    exact ⟨t, ht, htakes⟩

/-- What holds between operations one at a time, where these records are of an earlier run and have
not been looked at. -/
structure Steady (Holds : S → Dict SessionRecord → Prop) (rules : FleetRules) (userLimit : Int)
    (supply : Supply) (unread : SessionRecord → Prop) (log : Calls) (r : Registry S)
    (d : Dict SessionRecord) : Prop where
  routine : Fleet.Routine rules userLimit supply log r.fleet
  store : Holds r.store d
  /-- Each kernel that is tracked has a record. -/
  recorded : ∀ id, r.fleet.kernels.contains id = true → ∃ record ∈ d.values, record.kernel.id = id
  /-- Each record is of a kernel that is tracked, or is left over. -/
  left : ∀ record ∈ d.values, r.fleet.kernels.contains record.kernel.id = true ∨ unread record
  foreign : ∀ record, unread record → ∀ n, record.kernel.id ≠ supply.kernelId n
  started : ∀ id, r.started.contains id = true ↔
    r.fleet.kernels.contains id = true ∧ (historyOf log).Launched id
  launched : ∀ id, (historyOf log).Launched id → ∃ n, id = supply.kernelId n
  /-- Sessions that are still to be named have no records. -/
  unnamed : ∀ n, r.named ≤ n → d.get? (supply.sessionId n) = none

namespace Steady

/-- Other records may count as unread, as long as those of the store that did still do. -/
theorem weaken (h : Steady Holds rules userLimit supply unread log r d)
    (hunread : ∀ record ∈ d.values, unread record → unread' record)
    (hforeign : ∀ record, unread' record → ∀ n, record.kernel.id ≠ supply.kernelId n) :
    Steady Holds rules userLimit supply unread' log r d :=
  { h with
    left := fun record hmem => (h.left record hmem).imp_right (hunread record hmem)
    foreign := hforeign }

/-- The same kernels are tracked, started and recorded. -/
theorem congr (h : Steady Holds rules userLimit supply unread log r d)
    (hroutine : Fleet.Routine rules userLimit supply log' r'.fleet) (hstore : Holds r'.store d)
    (hkernels : ∀ id, r'.fleet.kernels.contains id = r.fleet.kernels.contains id)
    (hstarted : r'.started = r.started) (hnamed : r'.named = r.named)
    (hlog : ∀ id, (historyOf log').Launched id ↔ (historyOf log).Launched id) :
    Steady Holds rules userLimit supply unread log' r' d where
  routine := hroutine
  store := hstore
  recorded := by simpa only [hkernels] using h.recorded
  left := by simpa only [hkernels] using h.left
  foreign := h.foreign
  started := by simpa only [hkernels, hstarted, hlog] using h.started
  launched := by simpa only [hlog] using h.launched
  unnamed := by simpa only [hnamed] using h.unnamed

theorem later (h : Steady Holds rules userLimit supply unread log r d) (millis : Nat) :
    Steady Holds rules userLimit supply unread log (r.later millis) d :=
  h.congr (h.routine.later millis) h.store (fun _ => rfl) rfl rfl fun _ => Iff.rfl

/-- A kernel that is asked for stays tracked as it is. -/
theorem touch (h : Steady Holds rules userLimit supply unread log r d) (id : String) :
    Steady Holds rules userLimit supply unread log { r with fleet := r.fleet.touch id } d := by
  refine h.congr (h.routine.touch id) h.store ?_ rfl rfl fun _ => Iff.rfl
  intro other
  cases hget : r.fleet.kernels.get? id with
  | none => rw [Fleet.touch_eq_self hget]
  | some k =>
    have hknown : r.fleet.kernels.contains id = true := Dict.contains_iff.2 ⟨k, hget⟩
    rw [Fleet.touch_eq hget, Bool.eq_iff_iff, Dict.contains_insert]
    apply or_iff_right_of_imp
    rintro rfl
    exact hknown

/-- No kernel of a record has a name that is still to be given. -/
theorem unclaimed (h : Steady Holds rules userLimit supply unread log r d)
    {record : SessionRecord} (hmem : record ∈ d.values) {n : Nat} (hn : r.fleet.named ≤ n) :
    record.kernel.id ≠ supply.kernelId n := by
  rcases h.left record hmem with htracked | hunread
  · intro heq
    obtain ⟨k, hget⟩ := Dict.contains_iff.1 htracked
    rw [heq, h.routine.untracked n hn] at hget
    cases hget
  · exact h.foreign record hunread n

variable [SessionStore S] {Usable : String → Prop}

/-! ## Launches

A launch that succeeds is the first to have its name and its session. So its kernel is new, and so
is its record. -/

/-- A launch leaves records that were left over where they are. -/
theorem startKernel (hs : Reliable Usable Holds) (hkernels : Function.Injective supply.kernelId)
    (hsessions : Function.Injective supply.sessionId)
    (husable : ∀ n, Usable (supply.sessionId n)) {spec : KernelSpec} {p : LaunchParams}
    {x : Result SessionRecord} (h : Steady Holds rules userLimit supply unread log r d)
    (hends : (startKernel spec p).Ends Passes r calls r' x) :
    ∃ d', Steady Holds rules userLimit supply unread (log ++ calls) r' d' := by
  obtain ⟨_, created, _, _, h₁, h₂, rfl⟩ := ends_bind_iff.1 hends
  obtain ⟨g, hg, rfl⟩ := ends_onFleet h₁
  have hroutine := h.routine.create hkernels hg
  have houtcome := Fleet.outcome_of_ends h.routine hg
  cases created with
  | error e =>
    obtain ⟨rfl, rfl, rfl⟩ := ends_done_iff.1 h₂
    obtain ⟨hsame, hnothing⟩ := houtcome.of_error
    rw [List.append_nil]
    refine ⟨d, h.congr hroutine h.store ?_ rfl rfl (launched_append_of_forall hnothing)⟩
    intro id
    rw [hsame.kernels]
  | ok k =>
    obtain ⟨record, h₃, rfl⟩ := ends_map_iff.1 h₂
    obtain ⟨rfl, henlist⟩ := ends_atOnce_iff.1 h₃
    have hsupply : g.supply = supply := hroutine.supply_eq
    have hnameable : Usable (g.supply.sessionId r.named) := hsupply ▸ husable r.named
    obtain ⟨s, henlist', hstore⟩ :=
      holds_enlist hs (r := { r with fleet := g }) h.store hnameable k p
    rw [henlist'] at henlist
    cases henlist
    rw [List.append_nil]
    cases houtcome with
    | @launched _ request _ hasks hgains _ =>
      have hid : request.handle.id = supply.kernelId r.fleet.named := by
        rw [hasks.id, h.routine.supply_eq]
      have hsession : g.supply.sessionId r.named = supply.sessionId r.named := by rw [hsupply]
      -- The session was not made up before, so that the new record takes the place of none.
      have hnone : d.get? (g.supply.sessionId r.named) = none := by
        rw [hsession]
        exact h.unnamed _ (Nat.le_refl _)
      have hcontains := hgains.contains_iff
      refine ⟨_, hroutine, hstore, ?recorded, ?left, h.foreign, ?started, ?launched, ?unnamed⟩
      case recorded =>
        intro id hid
        simp only [Dict.mem_values_insert hnone]
        rcases (hcontains id).1 hid with rfl | hold
        · exact ⟨_, .inl rfl, rfl⟩
        · obtain ⟨record, hmem, hrecord⟩ := h.recorded id hold
          exact ⟨record, .inr hmem, hrecord⟩
      case left =>
        intro record hmem
        rcases (Dict.mem_values_insert hnone).1 hmem with rfl | hold
        · exact .inl ((hcontains _).2 (.inl rfl))
        · exact (h.left record hold).imp_left fun htracked => (hcontains _).2 (.inr htracked)
      case started =>
        intro id
        show (r.started.add request.handle.id).contains id = true ↔ _
        rw [NameSet.contains_add, launched_append_launch, hcontains, h.started]
        by_cases heq : id = request.handle.id
        · simp [heq]
        · simp [heq, Ne.symm heq]
      case launched =>
        intro id hlaunched
        rcases (launched_append_launch _ _).1 hlaunched with hold | rfl
        · exact h.launched id hold
        · exact ⟨_, hid⟩
      case unnamed =>
        intro n hn
        have hlater : r.named + 1 ≤ n := hn
        have hne : supply.sessionId n ≠ g.supply.sessionId r.named := by
          rw [hsession]
          intro heq
          have hsame := hsessions heq
          omega
        rw [Dict.get?_insert_of_ne _ _ hne]
        exact h.unnamed n (by omega)

/-! ## Shutdowns

A shutdown that succeeds forgets all records of its kernel, and these only. Records left over are of
kernels that nobody tracks, so that they are not among them. -/

/-- A kernel that could not be ended is tracked and recorded as it was. -/
theorem shutdownKernel (hs : Reliable Usable Holds) {id : String} {x : Result Unit}
    (h : Steady Holds rules userLimit supply unread log r d)
    (hends : (shutdownKernel id).Ends Passes r calls r' x) :
    ∃ d', Steady Holds rules userLimit supply unread (log ++ calls) r' d' := by
  obtain ⟨d', hd', hnamed, hshuts⟩ :=
    shuts_of_covered hs h.routine.balanced.covered h.store hends
  obtain ⟨y, hfleet⟩ := fleet_of_shutdownKernel hends
  have hroutine := h.routine.shutdown hfleet
  cases hshuts with
  | unknown _ =>
    rw [List.append_nil]
    exact ⟨d, h⟩
  | kept _ hsame hstarted =>
    refine ⟨d, h.congr hroutine hd' ?_ hstarted hnamed (launched_append_of_forall (by simp))⟩
    intro other
    rw [hsame.kernels]
  | @stopped _ k _ hkernels hstarted =>
    have hcontains (other : String) : r'.fleet.kernels.contains other = true ↔
        other ≠ id ∧ r.fleet.kernels.contains other = true := by
      rw [hkernels, Dict.contains_erase]
    have hvalues (record : SessionRecord) :
        record ∈ (d.filter fun _ record => record.kernel.id != id).values ↔
          record ∈ d.values ∧ record.kernel.id ≠ id := by
      rw [Dict.values_filter d fun record => record.kernel.id != id, List.mem_filter, bne_iff_ne]
    -- Nothing was launched, so that the same kernels count as launched.
    have hlog : ∀ other,
        (historyOf (log ++ [(.terminate k.handle, some (.ok ()))])).Launched other ↔
          (historyOf log).Launched other := launched_append_of_forall (by simp)
    refine ⟨_, hroutine, hd', ?recorded, ?left, h.foreign, ?started, ?launched, ?unnamed⟩
    case recorded =>
      intro other hother
      obtain ⟨hne, htracked⟩ := (hcontains other).1 hother
      obtain ⟨record, hmem, rfl⟩ := h.recorded other htracked
      exact ⟨record, (hvalues record).2 ⟨hmem, hne⟩, rfl⟩
    case left =>
      intro record hmem
      obtain ⟨hold, hne⟩ := (hvalues record).1 hmem
      exact (h.left record hold).imp_left fun htracked => (hcontains _).2 ⟨hne, htracked⟩
    case started =>
      intro other
      rw [hstarted, Dict.contains_erase, hlog, hcontains, h.started, and_assoc]
    case launched =>
      intro other hother
      exact h.launched other ((hlog other).1 hother)
    case unnamed =>
      intro n hn
      rw [hnamed] at hn
      rw [Dict.get?_filter, h.unnamed n hn]
      rfl

/-- One shutdown after another. -/
theorem shutdownEach (hs : Reliable Usable Holds) {ids : List String} {x : Nat}
    (h : Steady Holds rules userLimit supply unread log r d)
    (hends : (shutdownEach ids).Ends Passes r calls r' x) :
    ∃ d', Steady Holds rules userLimit supply unread (log ++ calls) r' d' := by
  induction ids generalizing r d log calls x with
  | nil =>
    obtain ⟨rfl, rfl, rfl⟩ := ends_done_iff.1 hends
    rw [List.append_nil]
    exact ⟨d, h⟩
  | cons id rest ih =>
    obtain ⟨r₁, outcome, _, _, h₁, h₂, rfl⟩ := ends_bind_iff.1 hends
    obtain ⟨x', h₃, rfl⟩ := ends_map_iff.1 h₂
    obtain ⟨d₁, hr₁⟩ := h.shutdownKernel hs h₁
    rw [← List.append_assoc]
    exact ih hr₁ h₃

/-- A pass ends kernels one after another, and counts them. -/
theorem cull (hs : Reliable Usable Holds) {ids : List String} {x : Nat}
    (h : Steady Holds rules userLimit supply unread log r d)
    (hends : (cull ids).Ends Passes r calls r' x) :
    ∃ d', Steady Holds rules userLimit supply unread (log ++ calls) r' d' := by
  obtain ⟨r₁, stopped, _, _, h₁, h₂, rfl⟩ := ends_bind_iff.1 hends
  obtain ⟨_, h₃, -⟩ := ends_map_iff.1 h₂
  obtain ⟨rfl, rfl⟩ := ends_change_iff.1 h₃
  obtain ⟨d₁, hr₁⟩ := h.shutdownEach hs h₁
  rw [List.append_nil]
  refine ⟨d₁, ?_⟩
  split
  · exact hr₁
  · exact hr₁.congr (hr₁.routine.same (fun _ => Iff.rfl) (hr₁.routine.balanced.congr rfl rfl)
      rfl rfl rfl rfl rfl) hr₁.store (fun _ => rfl) rfl rfl fun _ => Iff.rfl

/-! ## Recoveries

After a recovery nothing is left over: each record has had its turn, and was kept with its kernel or
dropped. -/

/-- Once they have had their turns, no records are left over. -/
theorem startSessions (hs : Reliable Usable Holds) {x : RecoveryReport}
    (h : Steady Holds rules userLimit supply unread log r d)
    (hends : startSessions.Ends Passes r calls r' x) :
    ∃ d', Steady Holds rules userLimit supply (fun _ => False) (log ++ calls) r' d' := by
  have hprobes := probes_of_ends hs h.store hends
  obtain ⟨turns, rfl, hturns⟩ := exists_tookTurns hs h.store hends
  have hfiled := hs.filed h.store
  have hrecord : ∀ t ∈ turns, t.record ∈ d.values := by
    intro t ht
    rw [← hturns.records]
    exact List.mem_map_of_mem ht
  have hroutine := hturns.fleet.routine h.routine fun t ht n hn =>
    h.unclaimed (hrecord t ht) hn
  have hstarted : r'.started = r.started := by rw [hturns.rest]
  have hnamed : r'.named = r.named := by rw [hturns.rest]
  have hold {id : String} (hid : r.fleet.kernels.contains id = true) :
      r'.fleet.kernels.contains id = true := by
    obtain ⟨k, hget⟩ := Dict.contains_iff.1 hid
    exact Dict.contains_iff.2 ⟨k, hturns.fleet.old hget⟩
  -- Whoever is tracked afterwards was taken over in its turn, and its record stays.
  have hkept := hturns.exists_taken h.recorded
  have hlog (id : String) : (historyOf (log ++ _)).Launched id ↔ (historyOf log).Launched id :=
    launched_append_of_forall (fun request hmem => nomatch hprobes _ hmem) id
  refine ⟨_, hroutine, hturns.store, ?recorded, ?left, nofun, ?started, ?launched, ?unnamed⟩
  case recorded =>
    intro id hid
    obtain ⟨t, ht, htaken, hkernel⟩ := hkept id hid
    refine ⟨t.record, ?_, hkernel⟩
    rw [hturns.values hfiled]
    exact List.mem_map_of_mem (List.mem_filter.2 ⟨ht, htaken⟩)
  case left =>
    intro record hmem
    rw [hturns.values hfiled] at hmem
    obtain ⟨t, ht, rfl⟩ := List.mem_map.1 hmem
    obtain ⟨hturn, htaken⟩ := List.mem_filter.1 ht
    exact .inl (hturns.contains_of_taken hturn htaken)
  case started =>
    intro id
    rw [hstarted, h.started, hlog]
    refine and_congr_left fun hlaunched => ⟨hold, fun hid => ?_⟩
    obtain ⟨t, ht, -, rfl⟩ := hkept id hid
    obtain ⟨n, hn⟩ := h.launched _ hlaunched
    -- A record that nobody has read yet is of an earlier process, whose kernels had other names.
    refine (h.left t.record (hrecord t ht)).resolve_right fun hunread => ?_
    exact h.foreign t.record hunread n hn
  case launched =>
    intro id hid
    exact h.launched id ((hlog id).1 hid)
  case unnamed =>
    intro n hn
    rw [hnamed] at hn
    rw [Dict.get?_without, h.unnamed n hn, ite_self]

end Steady

/-- Before anything is done all records are of an earlier run. -/
theorem steady_new {store : S} {recoveryLimit : Nat} (hd : Holds store d)
    (hfresh : supply.FreshFor d) :
    Steady Holds rules userLimit supply (· ∈ d.values) []
      (new (.empty rules userLimit supply) store recoveryLimit) d where
  routine := Fleet.routine_empty rules userLimit supply
  store := hd
  recorded := nofun
  left _ hmem := .inr hmem
  foreign record hmem n := hfresh.unused n record hmem
  started := by
    intro id
    exact ⟨nofun, fun h => nomatch h.1⟩
  launched := by
    rintro id ⟨request, hmem, -⟩
    cases hmem
  unnamed n _ := hfresh.unnamed n

/-! ## Operations one at a time

By induction on the operations. What is left over shrinks to nothing with the first recovery, and
grows with none. -/

/-- What the gateway asks of its registry, and not of the fleet behind the registry's back. -/
def Operation.Recorded : Operation → Prop
  | .touch _ | .startKernel _ _ | .shutdownKernel _ | .startSessions | .shutdownAll
  | .shutdownStarted | .cull _ | .cullIdle _ => True
  | .create _ _ | .reattach _ _ | .shutdown _ => False

variable [SessionStore S] {Usable : String → Prop}

/-- What a registry comes to by these operations, the last one first, each to its end, and what the
launcher was asked and answered meanwhile. -/
inductive Ran (start : Registry S) : List Operation → Calls → Registry S → Prop where
  | start : Ran start [] [] start
  | passes {ops : List Operation} {log : Calls} {r : Registry S} (millis : Nat) :
      Ran start ops log r → Ran start ops log (r.later millis)
  | does {ops : List Operation} {log calls : Calls} {r r' : Registry S} {op : Operation}
      {x : Result Unit} : Ran start ops log r → op.Recorded →
      op.activity.Ends Passes r calls r' x → Ran start (op :: ops) (log ++ calls) r'
  /-- Kernels are ended one after another, in whatever order. -/
  | inTurn {ops : List Operation} {log calls : Calls} {r r' : Registry S} {ids : List String}
      {x : Nat} : Ran start ops log r → (shutdownEach ids).Ends Passes r calls r' x →
      Ran start ops (log ++ calls) r'

/-- One case for each operation, by the lemmas before. -/
theorem Steady.of_ends (hs : Reliable Usable Holds) (hkernels : Function.Injective supply.kernelId)
    (hsessions : Function.Injective supply.sessionId)
    (husable : ∀ n, Usable (supply.sessionId n)) {op : Operation} (hop : op.Recorded)
    {x : Result Unit} (h : Steady Holds rules userLimit supply unread log r d)
    (hends : op.activity.Ends Passes r calls r' x) :
    ∃ d', Steady Holds rules userLimit supply (fun record => op ≠ .startSessions ∧ unread record)
      (log ++ calls) r' d' := by
  -- An operation that is no recovery leaves over what was left over before.
  have hkeep (hne : op ≠ .startSessions)
      (hsteady : ∃ d', Steady Holds rules userLimit supply unread (log ++ calls) r' d') :
      ∃ d', Steady Holds rules userLimit supply
        (fun record => op ≠ .startSessions ∧ unread record) (log ++ calls) r' d' := by
    obtain ⟨d', hd'⟩ := hsteady
    exact ⟨d', hd'.weaken (fun _ _ hunread => ⟨hne, hunread⟩) fun record hunread =>
      h.foreign record hunread.2⟩
  cases op with
  | create _ _ | reattach _ _ | shutdown _ => exact hop.elim
  | touch id =>
    obtain ⟨g, hg, rfl⟩ := ends_onFleet hends
    obtain ⟨y, hy, -⟩ := ends_sure hg
    obtain ⟨rfl, rfl⟩ := ends_change_iff.1 hy
    rw [List.append_nil] at hkeep ⊢
    exact hkeep nofun ⟨d, h.touch id⟩
  | startKernel spec p =>
    obtain ⟨y, hy, -⟩ := ends_success hends
    exact hkeep nofun (h.startKernel hs hkernels hsessions husable hy)
  | shutdownKernel id => exact hkeep nofun (h.shutdownKernel hs hends)
  | startSessions =>
    obtain ⟨y, hy, -⟩ := ends_sure hends
    obtain ⟨d', hd'⟩ := h.startSessions hs hy
    exact ⟨d', hd'.weaken (fun _ _ => nofun) fun record hunread =>
      h.foreign record hunread.2⟩
  | shutdownAll =>
    obtain ⟨y, hy, -⟩ := ends_sure hends
    obtain ⟨n, hn, -⟩ := ends_map_iff.1 (ends_look_bind_iff.1 hy)
    exact hkeep nofun (h.shutdownEach hs hn)
  | shutdownStarted =>
    obtain ⟨y, hy, -⟩ := ends_sure hends
    obtain ⟨n, hn, -⟩ := ends_map_iff.1 (ends_look_bind_iff.1 hy)
    exact hkeep nofun (h.shutdownEach hs hn)
  | cull ids =>
    obtain ⟨y, hy, -⟩ := ends_sure hends
    exact hkeep nofun (h.cull hs hy)
  | cullIdle millis =>
    obtain ⟨y, hy, -⟩ := ends_sure hends
    exact hkeep nofun (h.cull hs (ends_look_bind_iff.1 hy))

/-- After any operations one at a time, the records that are left over are those of an earlier run,
as long as these have not been looked at. -/
theorem steady_of_ran {store : S} {recoveryLimit : Nat} {old : Dict SessionRecord}
    {ops : List Operation} (hs : Reliable Usable Holds) (hd : Holds store old)
    (hfresh : supply.FreshFor old) (husable : ∀ n, Usable (supply.sessionId n))
    (h : Ran (new (.empty rules userLimit supply) store recoveryLimit) ops log r) :
    ∃ d, Steady Holds rules userLimit supply
      (fun record => .startSessions ∉ ops ∧ record ∈ old.values) log r d := by
  induction h with
  | start =>
    exact ⟨old, (steady_new hd hfresh).weaken (fun _ _ hmem => ⟨List.not_mem_nil, hmem⟩)
      fun record hunread n => hfresh.unused n record hunread.2⟩
  | passes millis _ ih =>
    obtain ⟨d, hsteady⟩ := ih
    exact ⟨d, hsteady.later millis⟩
  | @does ops _ _ _ _ op _ _ hop hends ih =>
    obtain ⟨d, hsteady⟩ := ih
    obtain ⟨d', hd'⟩ := hsteady.of_ends hs hfresh.kernels hfresh.sessions husable hop hends
    refine ⟨d', hd'.weaken ?_ fun record hunread n => hfresh.unused n record hunread.2⟩
    rintro record - ⟨hne, hnotIn, hmem⟩
    exact ⟨List.not_mem_cons_of_ne_of_not_mem hne.symm hnotIn, hmem⟩
  | inTurn _ hends ih =>
    obtain ⟨d, hsteady⟩ := ih
    exact hsteady.shutdownEach hs hends

end Registry

end KernelGate
