import KernelGate.Proofs.Registry.Calls
import KernelGate.Proofs.Registry.Overlap

/-!
# Launches and shutdowns that nothing comes between

What a launch or a shutdown that runs alone asks of the launcher, and what it makes of kernels,
ledger and records, each by what the launcher said. Of kernels that are ended one after another each
is asked for once, whatever comes of the others.

Main statements: `launches_of_ends` and `shuts_of_covered` for one operation, `shutEach_of_covered`
for kernels that are ended one after another; `inStep_shutdownKernel` and `shutEach_of_ends` add
that records stay in step with kernels.
-/

namespace KernelGate

open Activity

/-- A store that never fails holds one dictionary at a time. -/
theorem Reliable.unique {S : Type} [SessionStore S] {Usable : String → Prop}
    {Holds : S → Dict SessionRecord → Prop} (hs : Reliable Usable Holds) {s : S}
    {d d' : Dict SessionRecord} (h : Holds s d) (h' : Holds s d') : d = d' := by
  obtain ⟨s₁, hlist, -⟩ := hs.list h
  obtain ⟨s₂, hlist', -⟩ := hs.list h'
  have hvalues : d.values = d'.values := by
    rw [hlist] at hlist'
    exact Except.ok.inj (Prod.ext_iff.1 hlist').2
  have hget : ∀ {d : Dict SessionRecord} {session record}, Filed d →
      (d.get? session = some record ↔ record ∈ d.values ∧ record.sessionId = session) := by
    intro d session record hfiled
    constructor
    · intro hget
      exact ⟨Dict.mem_values.2 ⟨session, hget⟩, hfiled session record hget⟩
    · rintro ⟨hmem, rfl⟩
      exact hfiled.get? hmem
  apply Dict.ext_get?
  intro session
  apply Option.ext
  intro record
  rw [hget (hs.filed h), hget (hs.filed h'), hvalues]

/-- The record of a run in which these calls were answered. -/
def historyOf (calls : Calls) : History := calls.map fun e => (e.1, .answered e.2)

theorem historyOf_append (calls calls' : Calls) :
    historyOf (calls ++ calls') = historyOf calls ++ historyOf calls' :=
  List.map_append

/-! ## Who is let in

A launch that the launcher hears of has passed the policy and both limits, and has ports. Conversely
one that keeps within all of these can only be refused because no ports were to be had. -/

namespace Fleet

variable {f g : Fleet} {p : LaunchParams}

/-- A launch keeps within the policy and both limits. -/
structure Roomy (f : Fleet) (p : LaunchParams) : Prop where
  policy : f.rules.policy.admits (f.userOf p) = true
  room : f.isFull = false
  slot : f.ledger.isFull (f.userOf p) = false

/-- The reservation of ports with this number gives any. -/
def Supplied (f : Fleet) (n : Nat) : Prop :=
  ∃ ports, f.rules.portRange.reserve (f.supply.ports n) portsPerKernel = .ok ports

/-- A launch is let through only if it keeps within policy and limits. -/
theorem roomy_of_admitLaunch {spec : KernelSpec} {request : LaunchRequest}
    (h : f.admitLaunch spec p = (g, .ok request)) : f.Roomy p := by
  obtain ⟨_, hpolicy, hroom, hslot, -⟩ := admitLaunch_ok h
  exact ⟨hpolicy, hroom, hslot⟩

/-- Whoever has room is refused only for want of ports. -/
theorem not_supplied_of_admitLaunch {spec : KernelSpec} {e : Fault}
    (h : f.admitLaunch spec p = (g, .error e)) (hroomy : f.Roomy p) :
    ¬ f.Supplied f.reservations := by
  rintro ⟨ports, hports⟩
  have hslot : f.ledger.acquire? (f.userOf p) = some (f.ledger.restore (f.userOf p)) := by
    rw [Ledger.acquire?, hroomy.slot]
    rfl
  simp only [admitLaunch, hroomy.policy, hroomy.room, hslot, hports] at h
  cases h

/-- While nobody waits, each kernel has its slot. -/
theorem Traffic.Sound.covered (h : Traffic.Sound ⟨f, []⟩) : f.Covered where
  keyed := h.keyed
  tidy := h.tidy
  covered := by
    intro user
    exact Nat.le_trans (Nat.le_add_right _ _) (Nat.le_of_eq (h.balanced user).symm)

/-- The kernel is the user's for whom the limits were asked. -/
theorem user_of_admitLaunch {spec : KernelSpec} {request : LaunchRequest}
    (h : f.admitLaunch spec p = (g, .ok request)) :
    request.handle.user = f.userOf p ∧ g.rules = f.rules := by
  obtain ⟨ports, -, -, -, -, hprepare⟩ := admitLaunch_ok h
  cases hprepare
  exact ⟨rfl, rfl⟩

end Fleet

namespace Registry

variable {S : Type} [SessionStore S] {Usable : String → Prop}
  {Holds : S → Dict SessionRecord → Prop} {supply : Supply} {log : History} {r r' : Registry S}
  {d d' : Dict SessionRecord} {calls : Calls}

/-! ## Launches

What a launch makes of the registry is told by what the launcher said, or by its not having been
asked. Records are kept in step, under a session that has none yet. -/

/-- What comes of a launch, by what the launcher said. -/
inductive Launches (r : Registry S) (d : Dict SessionRecord) (p : LaunchParams) :
    Calls → Registry S → Dict SessionRecord → Result SessionRecord → Prop where
  /-- It is not let in, so that the launcher is not called. -/
  | refused {r' : Registry S} {e : Fault} :
      (r.fleet.Roomy p → ¬ r.fleet.Supplied r.fleet.reservations) →
      r.fleet.SameApart r'.fleet → Launches r d p [] r' d (.error e)
  | failed {r' : Registry S} {request : LaunchRequest} {e : Fault} :
      r.fleet.SameApart r'.fleet →
      Launches r d p [(.launch request, some (.error e))] r' d (.error e)
  | launched {r' : Registry S} {request : LaunchRequest} {session : String} (now : Nat) :
      r.fleet.Roomy p → request.handle.user = r.fleet.userOf p →
      r.fleet.kernels.get? request.handle.id = none →
      r'.fleet.rules = r.fleet.rules → r'.fleet.supply = r.fleet.supply →
      r'.fleet.kernels = r.fleet.kernels.insert request.handle.id ⟨request.handle, now⟩ →
      r'.fleet.ledger = r.fleet.ledger.restore request.handle.user →
      d.get? session = none →
      Launches r d p [(.launch request, some (.ok ()))] r'
        (d.insert session ⟨session, request.handle, p⟩) (.ok ⟨session, request.handle, p⟩)

/-- A launch that succeeds is the only one that leaves a record, and its record is new. -/
theorem launches_of_ends (hs : Reliable Usable Holds) (hfresh : Function.Injective supply.kernelId)
    (hnamed : Function.Injective supply.sessionId)
    (husable : ∀ n, Usable (supply.sessionId n)) {spec : KernelSpec} {p : LaunchParams}
    {x : Result SessionRecord} (hr : InStep Holds supply log r [] d)
    (h : (startKernel spec p).Ends Passes r calls r' x) :
    ∃ d', InStep Holds supply (log ++ historyOf calls) r' [] d' ∧ Launches r d p calls r' d' x := by
  obtain ⟨_, created, _, _, h₁, h₂, rfl⟩ := ends_bind_iff.1 h
  obtain ⟨g, hg, rfl⟩ := ends_onFleet h₁
  obtain ⟨f₁, admitted, _, _, h₃, h₄, rfl⟩ := ends_bind_iff.1 hg
  obtain ⟨rfl, hadmit⟩ := ends_atOnce_iff.1 h₃
  cases admitted with
  | error e =>
    obtain ⟨rfl, rfl, rfl⟩ := ends_done_iff.1 h₄
    obtain ⟨rfl, rfl, rfl⟩ := ends_done_iff.1 h₂
    obtain ⟨reservations, metrics, rfl⟩ := Fleet.admitLaunch_error hr.sound.tidy hadmit
    refine ⟨d, ?_, .refused (Fleet.not_supplied_of_admitLaunch hadmit) ⟨rfl, rfl, rfl, rfl⟩⟩
    rw [show historyOf _ = [] from rfl, List.append_nil]
    exact hr.congr ⟨rfl, rfl, rfl⟩ rfl rfl
  | ok request =>
    have hwaiting := hr.admitted hfresh hadmit
    obtain ⟨hroomy, huser, hrules⟩ :=
      And.intro (Fleet.roomy_of_admitLaunch hadmit) (Fleet.user_of_admitLaunch hadmit)
    obtain ⟨hbecomes, hsupply, -, hid⟩ := Fleet.becomes_of_admitLaunch hadmit
    obtain ⟨f₂, answer, _, _, h₅, h₆, rfl⟩ := ends_bind_iff.1 h₄
    obtain ⟨⟨millis, rfl⟩, rfl⟩ := ends_await_iff.1 h₅
    obtain ⟨rfl, hsettle⟩ := ends_atOnce_iff.1 h₆
    have hlater : InStep Holds supply log { r with fleet := f₁.later millis }
        [.launching request] d := hwaiting.aside ⟨f₁.metrics, f₁.now + millis, rfl⟩
    cases created with
    | error e =>
      obtain ⟨rfl, rfl, rfl⟩ := ends_done_iff.1 h₂
      refine ⟨d, hlater.launch_failed hsettle, ?_⟩
      obtain ⟨rfl, hsupply', -, hkernels⟩ := Fleet.becomes_of_settleLaunch_error hsettle
      cases hsettle
      -- The slot that the launch had taken is the one that it gives back.
      have hledger : f₁.ledger.release request.handle.user = r.fleet.ledger := by
        rw [hbecomes.ledger]
        exact Ledger.release_restore hr.sound.tidy _
      exact .failed ⟨hrules, hsupply, hbecomes.kernels, hledger⟩
    | ok k =>
      obtain ⟨record, h₇, rfl⟩ := ends_map_iff.1 h₂
      obtain ⟨rfl, henlist⟩ := ends_atOnce_iff.1 h₇
      obtain ⟨d', hstep⟩ : ∃ d', InStep Holds supply
          (log ++ [(.launch request, .answered (some answer))])
          (enlist { r with fleet := g } k p).1 [] d' :=
        hlater.launch_succeeded hs hnamed husable hsettle
      obtain ⟨rfl, rfl, hsupply', -, hkernels⟩ := Fleet.becomes_of_settleLaunch hsettle
      have hsupplied : g.supply = supply :=
        hsupply'.trans (hsupply.trans hr.named.supplied)
      have hnameable : Usable (g.supply.sessionId r.named) := hsupplied ▸ husable r.named
      obtain ⟨s, henlist', hstore⟩ :=
        holds_enlist hs (r := { r with fleet := g }) hr.store hnameable request.handle p
      rw [henlist'] at henlist hstep
      cases henlist
      obtain rfl := hs.unique hstep.store hstore
      have hnew : r.fleet.kernels.get? request.handle.id = none := by
        rw [hid, hr.named.supplied]
        exact (hr.named.unused _ (Nat.le_refl _)).1
      have hnone : d.get? (g.supply.sessionId r.named) = none := by
        rw [hsupplied]
        exact hr.unnamed _ (Nat.le_refl _)
      cases hsettle
      refine ⟨_, hstep, .launched (f₁.now + millis) hroomy huser hnew hrules hsupply ?_ ?_ hnone⟩
      · exact hkernels.kernels.trans (by rw [← hbecomes.kernels]; rfl)
      · exact hbecomes.ledger

/-! ## Shutdowns

To say what a shutdown does to kernels and records takes a slot for each kernel and no more; that
records stay in step is a matter of its own, for which this is used again. -/

/-- What comes of a shutdown, by what the launcher said. -/
inductive Shuts (r : Registry S) (d : Dict SessionRecord) (id : String) :
    Calls → Registry S → Dict SessionRecord → Result Unit → Prop where
  | unknown {e : Fault} : r.fleet.kernels.get? id = none → Shuts r d id [] r d (.error e)
  | kept {r' : Registry S} {k : Tracked} {e : Fault} :
      r.fleet.kernels.get? id = some k → r.fleet.SameApart r'.fleet → r'.started = r.started →
      Shuts r d id [(.terminate k.handle, some (.error e))] r' d (.error e)
  | stopped {r' : Registry S} {k : Tracked} :
      r.fleet.kernels.get? id = some k → r'.fleet.kernels = r.fleet.kernels.erase id →
      r'.started = r.started.erase id →
      Shuts r d id [(.terminate k.handle, some (.ok ()))] r'
        (d.filter fun _ record => record.kernel.id != id) (.ok ())

/-- A shutdown that succeeds takes the kernel with all of its records, and one that fails takes
nothing. -/
theorem shuts_of_covered (hs : Reliable Usable Holds) {id : String} {x : Result Unit}
    (hr : r.fleet.Covered) (hd : Holds r.store d)
    (h : (shutdownKernel id).Ends Passes r calls r' x) :
    ∃ d', Holds r'.store d' ∧ r'.named = r.named ∧ Shuts r d id calls r' d' x := by
  obtain ⟨_, ended, _, _, h₁, h₂, rfl⟩ := ends_bind_iff.1 h
  obtain ⟨g, hg, rfl⟩ := ends_onFleet h₁
  have hended := Fleet.ended_of_ends hr hg
  obtain ⟨hnone, rfl, rfl⟩ | ⟨k, answer, hget, rfl, rfl⟩ := Fleet.calls_of_shutdown hg
  · obtain rfl := Fleet.eq_of_shutdown_of_none hnone hg
    obtain ⟨rfl, rfl, rfl⟩ := ends_done_iff.1 h₂
    exact ⟨d, hd, rfl, .unknown hnone⟩
  · cases answer with
    | error e =>
      obtain ⟨rfl, rfl, rfl⟩ := ends_done_iff.1 h₂
      cases hended with
      | kept hsame => exact ⟨d, hd, rfl, .kept hget hsame rfl⟩
    | ok _ =>
      obtain ⟨_, h₃, rfl⟩ := ends_map_iff.1 h₂
      obtain ⟨rfl, rfl⟩ := ends_change_iff.1 h₃
      obtain ⟨s, hforget, hs'⟩ := holds_forget hs (r := { r with fleet := g }) hd id
      rw [hforget]
      exact ⟨_, hs', rfl, .stopped hget (Fleet.Ended.kernels_of_ok hended) rfl⟩

/-- Records stay in step with kernels by a shutdown, whatever the launcher says. -/
theorem inStep_shutdownKernel (hs : Reliable Usable Holds) {id : String} {x : Result Unit}
    (hr : InStep Holds supply log r [] d) (h : (shutdownKernel id).Ends Passes r calls r' x) :
    ∃ d', InStep Holds supply (log ++ historyOf calls) r' [] d' := by
  obtain ⟨_, ended, _, _, h₁, h₂, rfl⟩ := ends_bind_iff.1 h
  obtain ⟨g, hg, rfl⟩ := ends_onFleet h₁
  obtain ⟨f₁, begun, _, _, h₃, h₄, rfl⟩ := ends_bind_iff.1 hg
  obtain ⟨rfl, hbegin⟩ := ends_atOnce_iff.1 h₃
  cases begun with
  | error e =>
    obtain ⟨rfl, rfl, rfl⟩ := ends_done_iff.1 h₄
    obtain ⟨rfl, rfl, rfl⟩ := ends_done_iff.1 h₂
    obtain rfl := Fleet.eq_of_beginShutdown_error hbegin
    rw [show historyOf _ = [] from rfl, List.append_nil]
    exact ⟨d, hr⟩
  | ok k =>
    obtain ⟨hid, hwaiting⟩ := hr.taken hbegin
    obtain ⟨f₂, answer, _, _, h₅, h₆, rfl⟩ := ends_bind_iff.1 h₄
    obtain ⟨⟨millis, rfl⟩, rfl⟩ := ends_await_iff.1 h₅
    obtain ⟨rfl, hsettle⟩ := ends_atOnce_iff.1 h₆
    have hlater : InStep Holds supply log { r with fleet := f₁.later millis } [.ending k] d :=
      hwaiting.aside ⟨f₁.metrics, f₁.now + millis, rfl⟩
    cases ended with
    | error e =>
      obtain ⟨rfl, rfl, rfl⟩ := ends_done_iff.1 h₂
      exact ⟨d, hlater.shutdown_failed hsettle⟩
    | ok h =>
      obtain ⟨_, h₇, rfl⟩ := ends_map_iff.1 h₂
      obtain ⟨rfl, rfl⟩ := ends_change_iff.1 h₇
      rw [← hid]
      exact hlater.shutdown_succeeded hs hsettle

/-! ## Kernels that are ended one after another

By induction on the kernels that are still to be ended. Each of them has its turn in the registry
that the ones before have left, where it is still tracked, since the kernels are all different. -/

/-- What the launcher said about each of some kernels that it was to end. -/
abbrev Answers := List (KernelHandle × Result Unit)

namespace Answers

/-- The calls in which it was to. -/
def terminations (answers : Answers) : Calls := answers.map fun a => (.terminate a.1, some a.2)

/-- The ids of the kernels that were stopped. -/
def stopped (answers : Answers) : List String :=
  (answers.filter fun a => a.2.isOk).map (·.1.id)

/-- Where no kernel is named twice, it is among those stopped just by its own answer. -/
theorem mem_stopped {answers : Answers} (hnodup : (answers.map (·.1.id)).Nodup)
    {a : KernelHandle × Result Unit} (ha : a ∈ answers) :
    a.1.id ∈ answers.stopped ↔ a.2.isOk = true := by
  unfold stopped
  rw [List.mem_map]
  constructor
  · rintro ⟨a', ha', hid⟩
    obtain ⟨hmem, hok⟩ := List.mem_filter.1 ha'
    rwa [List.inj_on_of_nodup_map hnodup hmem ha hid] at hok
  · intro hok
    exact ⟨a, List.mem_filter.2 ⟨ha, hok⟩, rfl⟩

/-- A kernel that was asked to end was not stopped just if that failed. -/
theorem not_mem_stopped {answers : Answers} (hnodup : (answers.map (·.1.id)).Nodup)
    {a : KernelHandle × Result Unit} (ha : a ∈ answers) :
    a.1.id ∉ answers.stopped ↔ ∃ e, a.2 = .error e := by
  rw [mem_stopped hnodup ha]
  cases a.2 with
  | error e => simp [Except.isOk, Except.toBool]
  | ok _ => simp [Except.isOk, Except.toBool]

end Answers

/-- The records of all other kernels. -/
def recordsWithout (d : Dict SessionRecord) (kernels : List String) : Dict SessionRecord :=
  d.filter fun _ record => decide (record.kernel.id ∉ kernels)

/-- The records of kernels that were stopped are gone, and no others. -/
theorem get?_recordsWithout (d : Dict SessionRecord) (kernels : List String) (session : String) :
    (recordsWithout d kernels).get? session =
      (d.get? session).filter fun record => decide (record.kernel.id ∉ kernels) :=
  Dict.get?_filter _ _ _

theorem recordsWithout_nil (d : Dict SessionRecord) : recordsWithout d [] = d := by
  apply Dict.ext_get?
  intro session
  rw [get?_recordsWithout]
  cases d.get? session <;> rfl

/-- To forget several kernels is to forget one after another. -/
theorem recordsWithout_cons (d : Dict SessionRecord) (id : String) (kernels : List String) :
    recordsWithout d (id :: kernels) =
      recordsWithout (d.filter fun _ record => record.kernel.id != id) kernels := by
  apply Dict.ext_get?
  intro session
  rw [get?_recordsWithout, get?_recordsWithout, Dict.get?_filter]
  cases d.get? session with
  | none => rfl
  | some record =>
    by_cases hid : record.kernel.id = id <;>
      by_cases hmem : record.kernel.id ∈ kernels <;> simp [hid, hmem, Option.filter]

/-- The kernels that were stopped are gone, with their records; all others are as before. -/
structure ShutEach (r : Registry S) (d : Dict SessionRecord) (answers : Answers) (r' : Registry S)
    (d' : Dict SessionRecord) : Prop where
  asked : ∀ a ∈ answers, r.fleet.get? a.1.id = some a.1
  kernels : r'.fleet.kernels = r.fleet.kernels.without answers.stopped
  started : r'.started = r.started.without answers.stopped
  records : d' = recordsWithout d answers.stopped

/-- What comes of one kernel has no bearing on whether the next one is asked for. -/
theorem shutEach_of_covered (hs : Reliable Usable Holds) {ids : List String} {x : Nat}
    (hids : ids.Nodup) (htracked : ∀ id ∈ ids, r.fleet.kernels.contains id = true)
    (hr : r.fleet.Covered) (hd : Holds r.store d)
    (h : (shutdownEach ids).Ends Passes r calls r' x) :
    ∃ answers d', answers.map (·.1.id) = ids ∧ calls = Answers.terminations answers ∧
      x = answers.stopped.length ∧ Holds r'.store d' ∧ ShutEach r d answers r' d' := by
  induction ids generalizing r d calls x with
  | nil =>
    obtain ⟨rfl, rfl, rfl⟩ := ends_done_iff.1 h
    exact ⟨[], d, rfl, rfl, rfl, hd, List.forall_mem_nil _, (Dict.without_nil _).symm,
      (Dict.without_nil _).symm, (recordsWithout_nil d).symm⟩
  | cons id rest ih =>
    obtain ⟨r₁, outcome, first, _, h₁, h₂, rfl⟩ := ends_bind_iff.1 h
    obtain ⟨x', h₃, rfl⟩ := ends_map_iff.1 h₂
    obtain ⟨hid, hrest⟩ := List.nodup_cons.1 hids
    obtain ⟨hhere, hthere⟩ := List.forall_mem_cons.1 htracked
    obtain ⟨d₁, hd₁, -, hshuts⟩ := shuts_of_covered hs hr hd h₁
    have hr₁ := covered_shutdownKernel hr h₁
    -- The call is about the handle that is tracked, and its id is the one that the list has.
    have hkeyed : ∀ {k : Tracked}, r.fleet.kernels.get? id = some k →
        k.handle.id = id ∧ r.fleet.get? id = some k.handle := by
      intro k hget
      refine ⟨hr.keyed id k hget, ?_⟩
      rw [Fleet.get?, hget]
      rfl
    cases hshuts with
    | unknown hnone => simp [Dict.contains, hnone] at hhere
    | @kept _ k e hget hsame hstarted =>
      obtain ⟨hkid, hhandle⟩ := hkeyed hget
      rw [← hsame.kernels] at hthere
      obtain ⟨answers, d', hmap, hcalls, hx, hd', heach⟩ := ih hrest hthere hr₁ hd₁ h₃
      refine ⟨(k.handle, .error e) :: answers, d', ?_, ?_, hx, hd', ?_, ?_, ?_, heach.records⟩
      · rw [List.map_cons, hmap, hkid]
      · rw [hcalls]
        rfl
      · refine List.forall_mem_cons.2 ⟨by rw [hkid, hhandle], fun a ha => ?_⟩
        rw [← Fleet.get?_congr hsame.kernels]
        exact heach.asked a ha
      · rw [heach.kernels, hsame.kernels]
        rfl
      · rw [heach.started, hstarted]
        rfl
    | @stopped _ k hget hkernels hstarted =>
      obtain ⟨hkid, hhandle⟩ := hkeyed hget
      -- No id is twice in the list, so that those to come are still tracked.
      have hthere' : ∀ id' ∈ rest, r₁.fleet.kernels.contains id' = true := by
        intro id' hmem
        have hne : id' ≠ id := by
          rintro rfl
          exact hid hmem
        rw [Dict.contains, hkernels, Dict.get?_erase_of_ne _ hne]
        exact hthere id' hmem
      obtain ⟨answers, d', hmap, hcalls, hx, hd', heach⟩ := ih hrest hthere' hr₁ hd₁ h₃
      have hstopped : Answers.stopped ((k.handle, .ok ()) :: answers) = id :: answers.stopped := by
        rw [← hkid]
        rfl
      refine ⟨(k.handle, .ok ()) :: answers, d', ?_, ?_, ?_, hd', ?_, ?_, ?_, ?_⟩
      · rw [List.map_cons, hmap, hkid]
      · rw [hcalls]
        rfl
      · rw [hstopped, hx]
        rfl
      · refine List.forall_mem_cons.2 ⟨by rw [hkid, hhandle], fun a ha => ?_⟩
        have hmem : a.1.id ∈ rest := hmap ▸ List.mem_map_of_mem ha
        have hne : a.1.id ≠ id := fun heq => hid (heq ▸ hmem)
        rw [← heach.asked a ha, Fleet.get?, Fleet.get?, hkernels, Dict.get?_erase_of_ne _ hne]
      · rw [heach.kernels, hkernels, hstopped, Dict.without_cons]
      · rw [heach.started, hstarted, hstopped, Dict.without_cons]
      · rw [heach.records, hstopped, recordsWithout_cons]

theorem inStep_shutdownEach (hs : Reliable Usable Holds) {ids : List String} {x : Nat}
    (hr : InStep Holds supply log r [] d) (h : (shutdownEach ids).Ends Passes r calls r' x) :
    ∃ d', InStep Holds supply (log ++ historyOf calls) r' [] d' := by
  induction ids generalizing r d log calls x with
  | nil =>
    obtain ⟨rfl, rfl, rfl⟩ := ends_done_iff.1 h
    rw [show historyOf [] = [] from rfl, List.append_nil]
    exact ⟨d, hr⟩
  | cons id rest ih =>
    obtain ⟨r₁, outcome, _, _, h₁, h₂, rfl⟩ := ends_bind_iff.1 h
    obtain ⟨x', h₃, rfl⟩ := ends_map_iff.1 h₂
    obtain ⟨d₁, hr₁⟩ := inStep_shutdownKernel hs hr h₁
    rw [historyOf_append, ← List.append_assoc]
    exact ih hr₁ h₃

/-- The same with records that are in step, which stay so. -/
theorem shutEach_of_ends (hs : Reliable Usable Holds) {ids : List String} {x : Nat}
    (hids : ids.Nodup) (htracked : ∀ id ∈ ids, r.fleet.kernels.contains id = true)
    (hr : InStep Holds supply log r [] d) (h : (shutdownEach ids).Ends Passes r calls r' x) :
    ∃ answers d', answers.map (·.1.id) = ids ∧ calls = Answers.terminations answers ∧
      x = answers.stopped.length ∧ InStep Holds supply (log ++ historyOf calls) r' [] d' ∧
      ShutEach r d answers r' d' := by
  obtain ⟨d', hstep⟩ := inStep_shutdownEach hs hr h
  obtain ⟨answers, d'', hmap, hcalls, hx, hd'', heach⟩ :=
    shutEach_of_covered hs hids htracked hr.sound.covered hr.store h
  obtain rfl := hs.unique hstep.store hd''
  exact ⟨answers, d', hmap, hcalls, hx, hstep, heach⟩

end Registry

end KernelGate
