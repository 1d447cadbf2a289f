import KernelGate.Proofs.Lifecycle.Bringing

/-!
# Starts that succeed and starts that fail

A start that fails at a check has touched nothing. One that fails later has ended the kernels that
it launched itself, each once, and has left those alone that it had taken over. It does not fail for
want of room if there is room for all kernels that are to be launched, beside those taken over.

Main statements: `assemble_cases` (the checks), `starts_ready` (what comes after them), and
`start_of_starts`, which says when whole starts succeed and what is left of those that fail.
-/

namespace KernelGate

open Activity Registry

namespace Gateway

variable {S : Type} {c : Config} {parts : Parts S} {control : Coordinator}

/-! ## Checks

A start makes its checks before it touches anything. Of the limits they only ask whether more
kernels are to be launched than there may be; whether there is room is seen when the kernels are
launched. -/

/-- A check fails that comes before kernels and records are touched. -/
inductive Unready (c : Config) (parts : Parts S) : Prop where
  | catalog {e : ConfigFault} : Catalog.ofSpecs c.specs = .error e → Unready c parts
  | manager {e : Fault} : parts.obstacle? = some e → Unready c parts
  | store {e : Fault} : parts.store = .error e → Unready c parts
  | limits {count max : Nat} : c.prespawn? = some count → c.maxKernels? = some max → max < count →
      Unready c parts

/-- The registry of a gateway whose parts have been put together. -/
def registryOf (c : Config) (parts : Parts S) (store : S) : Registry S :=
  .new (.ofConfig c parts.gatewayUser parts.supply) store (c.recoverySeconds * 1000)

/-- The check of the limits fails just if more kernels are to wait for clients than there may be. -/
theorem exists_checkLimits_iff : (∃ e, c.checkLimits = .error e) ↔
    ∃ count max, c.prespawn? = some count ∧ c.maxKernels? = some max ∧ max < count := by
  unfold Config.checkLimits
  cases c.prespawn? with
  | none => simp
  | some count =>
    cases c.maxKernels? with
    | none => simp
    | some max => by_cases h : max < count <;> simp [h]

/-- Either a check fails, or the parts are put together over the store as it was opened. -/
theorem assemble_cases (c : Config) (parts : Parts S) :
    (Unready c parts ∧ ∃ e, assemble c parts = .error e) ∨
      (¬ Unready c parts ∧ ∃ catalog store, Catalog.ofSpecs c.specs = .ok catalog ∧
        parts.store = .ok store ∧ assemble c parts = .ok (catalog, registryOf c parts store)) := by
  unfold assemble
  rcases hcatalog : Catalog.ofSpecs c.specs with e | catalog
  · exact .inl ⟨.catalog hcatalog, _, rfl⟩
  · rcases hmanager : parts.obstacle? with _ | e
    · rcases hstore : parts.store with e | store
      · exact .inl ⟨.store hstore, e, rfl⟩
      · rcases hlimits : c.checkLimits with e | _
        · obtain ⟨count, max, hcount, hmax, hlt⟩ := exists_checkLimits_iff.1 ⟨e, hlimits⟩
          exact .inl ⟨.limits hcount hmax hlt, _, rfl⟩
        · refine .inr ⟨?_, catalog, store, rfl, rfl, rfl⟩
          rintro (hfault | hfault | hfault | ⟨hcount, hmax, hlt⟩)
          · rw [hcatalog] at hfault
            cases hfault
          · rw [hmanager] at hfault
            cases hfault
          · rw [hstore] at hfault
            cases hfault
          · obtain ⟨e, he⟩ := exists_checkLimits_iff.2 ⟨_, _, hcount, hmax, hlt⟩
            rw [hlimits] at he
            cases he
    · exact .inl ⟨.manager hmanager, e, rfl⟩

/-- A gateway that has not been started before is put together, or its life is over. -/
theorem prepare_cases (hcontrol : control.phase = .uninitialized) (parts : Parts S) :
    (Unready c parts ∧ ∃ control' e, prepare c parts control = (control', .error e) ∧
        control'.phase = .stopped) ∨
      (¬ Unready c parts ∧ ∃ g store, prepare c parts control = (g.control, .ok g) ∧
        g.config = c ∧ Catalog.ofSpecs c.specs = .ok g.catalog ∧ parts.store = .ok store ∧
        g.registry = registryOf c parts store) := by
  have hallows : control.phase.allows .uninitialized = true := by
    rw [hcontrol]
    rfl
  unfold prepare
  rw [hallows]
  rcases assemble_cases c parts with ⟨hunready, e, hassemble⟩ | ⟨hready, catalog, store, hcatalog,
    hstore, hassemble⟩
  · simp only [hassemble]
    exact .inl ⟨hunready, _, e, rfl, rfl⟩
  · let g : Gateway S := ⟨c, control.move .uninitialized .starting, catalog,
      registryOf c parts store, parts.tracksUse, ⟨c.pingMillis, none⟩⟩
    simp only [hassemble]
    exact .inr ⟨hready, g, store, rfl, rfl, hcatalog, hstore, rfl⟩

/-- Clients could be served, if the checks allow it. -/
def Known (c : Config) : Prop := c.api = Api.name ∧ c.defaultKernel ∈ c.specs.map (·.name)

/-- Whether the default kernel is known is a question about the specs. -/
theorem servable_iff {catalog : Catalog} (h : Catalog.ofSpecs c.specs = .ok catalog) :
    Servable c catalog ↔ Known c := by
  unfold Servable Known
  rw [Catalog.contains_of_ofSpecs h]

/-! ## Whole starts

A start goes through the checks, and then takes over, opens and launches. What comes of it is told
by the part in which it stops. -/

/-- What comes of a start: the calls that were made, the phase and the requests to stop, the store,
and the result. -/
structure StartOutcome (S : Type) where
  calls : Calls
  control : Coordinator
  store : Result S
  result : Result Unit

variable [SessionStore S] {o : StartOutcome S} {Usable : String → Prop}
  {Holds : S → Dict SessionRecord → Prop} {d : Dict SessionRecord}

/-- A start goes in two parts, the second of which takes place only if the first succeeds. -/
inductive Starts (c : Config) (parts : Parts S) (control : Coordinator) :
    StartOutcome S → Prop where
  | refused {control' : Coordinator} {e : Fault} :
      prepare c parts control = (control', .error e) →
      Starts c parts control ⟨[], control', parts.store, .error e⟩
  | brought {control' : Coordinator} {g g' : Gateway S} {calls : Calls} {x : Result Unit} :
      prepare c parts control = (control', .ok g) → bring.Ends Passes g calls g' x →
      Starts c parts control ⟨calls, g'.control, .ok g'.registry.store, x⟩

/-- Every launcher brings every start to an end. -/
theorem exists_starts {ω : Type} (answer : ω → LauncherCall → Option Nat → ω × Reply)
    (hanswer : ∀ w call limit, (answer w call limit).2.Possible limit) (w : ω) (c : Config)
    (parts : Parts S) (control : Coordinator) :
    ∃ o, Starts c parts control o ∧ Follows answer w o.calls := by
  rcases hprepare : prepare c parts control with ⟨control', e | g⟩
  · exact ⟨_, .refused hprepare, .nil w⟩
  · have hdrift : ∀ g : Gateway S, Passes g g := fun g => ⟨g.registry, ⟨0, rfl⟩, rfl⟩
    obtain ⟨calls, g', x, hends, hfollows⟩ := exists_ends_of_follows answer hdrift hanswer bring w g
    exact ⟨_, .brought hprepare hends, hfollows⟩

/-- A start that fails at a check has asked the launcher nothing and has not touched the store. -/
theorem starts_unready (hcontrol : control.phase = .uninitialized) (h : Starts c parts control o)
    (hunready : Unready c parts) :
    (∃ e, o.result = .error e) ∧ o.calls = [] ∧ o.store = parts.store ∧
      o.control.phase = .stopped := by
  rcases prepare_cases (c := c) hcontrol parts with ⟨-, control', e, hprepare, hphase⟩ | ⟨hready, -⟩
  · cases h with
    | refused h' =>
      rw [hprepare] at h'
      cases h'
      exact ⟨⟨e, rfl⟩, rfl, rfl, hphase⟩
    | brought h' _ =>
      rw [hprepare] at h'
      cases h'
  · exact absurd hunready hready

/-- A start that is ready takes over kernels first, and then does one of three things. -/
theorem starts_ready (hs : Reliable Usable Holds) (hcontrol : control.phase = .uninitialized)
    (hd : ∀ s, parts.store = .ok s → Holds s d) (hfresh : parts.supply.FreshFor d)
    (husable : ∀ n, Usable (parts.supply.sessionId n))
    (h : Starts c parts control o) (hready : ¬ Unready c parts) :
    ∃ store g g' before after report r, parts.store = .ok store ∧
      Catalog.ofSpecs c.specs = .ok g.catalog ∧ g.config = c ∧ o.calls = before ++ after ∧
      startSessions.Ends Registry.Passes (registryOf c parts store) before r report ∧
      Brought Holds g r (d.without report.dropped) after g' o.result ∧
      o.store = .ok g'.registry.store ∧ o.control = g'.control := by
  rcases prepare_cases (c := c) hcontrol parts with ⟨hunready, -⟩ | ⟨-, g, store, hprepare, hconfig,
    hcatalog, hstore, hregistry⟩
  · exact absurd hunready hready
  · cases h with
    | refused h' =>
      rw [hprepare] at h'
      cases h'
    | @brought _ _ g' calls x h' hends =>
      rw [hprepare] at h'
      cases h'
      obtain ⟨before, after, report, r, rfl, hstart, hbrought⟩ :=
        bring_of_ends hs hregistry (hd store hstore) hfresh husable hends
      rw [hregistry] at hstart
      exact ⟨store, g, g', before, after, report, r, hstore, hcatalog, hconfig, rfl, hstart,
        hbrought, rfl, rfl⟩

/-! ### What comes after the recovery

The kernels that were taken over count against the limits, so whether there is room for those to be
launched is seen from what the recovery left. -/

section

variable {g g' : Gateway S} {r : Registry S} {after : Calls} {x : Result Unit}

omit [SessionStore S] in
/-- Where clients could not be served, nothing is launched for them. -/
theorem Brought.of_not_servable (h : Brought Holds g r d after g' x)
    (hclosed : ¬ Servable g.config g.catalog) : (∃ e, x = .error e) ∧ after = [] := by
  cases h with
  | closed _ _ _ => exact ⟨⟨_, rfl⟩, rfl⟩
  | up hservable _ _ | down hservable _ _ _ _ _ => exact absurd hservable hclosed

omit [SessionStore S] in
/-- A start that fails takes back what it has launched. -/
theorem Brought.rolledBack {e : Fault} (h : Brought Holds g r d after g' (.error e)) :
    g'.control.phase = .stopped ∧ ∃ made d', launchesOf after = made.map (·.request) ∧
      Holds g'.registry.store d' ∧ RolledBack r d made (terminationsOf after) d' := by
  cases h with
  | closed _ hstore hphase =>
    exact ⟨hphase, [], d, rfl, hstore, List.nodup_nil, List.Perm.nil, List.forall_mem_nil _,
      by simp⟩
  | @down _ made _ _ d' _ _ _ _ _ hprespawned hback hstore hphase =>
    obtain ⟨htail, htail'⟩ := hprespawned.launchesOf_tail
    refine ⟨hphase, made, d', ?_, hstore, ?_⟩
    · rw [launchesOf_append, launchesOf_append, launchesOf_spawns, launchesOf_terminations, htail,
        List.append_nil, List.append_nil]
    · rw [terminationsOf_append, terminationsOf_append, terminationsOf_spawns, htail']
      exact hback

omit [SessionStore S] in
/-- Where clients can be served, and nothing else goes wrong, it is room that decides. -/
theorem Brought.ok_iff (h : Brought Holds g r d after g' x)
    (hservable : Servable g.config g.catalog)
    (hlaunch : ∀ e ∈ after, e.1.kind = .launch → e.2 = some (.ok ()))
    (hsupplied : ∀ n, r.fleet.Supplied n) {count : Nat} (hcount : g.config.prespawn? = some count)
    (hpos : 0 < count) : x = .ok () ↔ r.fleet.HasRoom (r.fleet.userOf .silent) count := by
  have hgetD : g.config.prespawn?.getD 0 = count := by
    rw [hcount]
    rfl
  cases h with
  | closed hclosed _ _ => exact absurd hservable hclosed
  | up _ hspawned hprespawned =>
    rw [hgetD] at hprespawned
    exact hprespawned.ok_iff hspawned hpos hsupplied fun _ _ => List.not_mem_nil
  | down _ hspawned hprespawned _ _ _ =>
    rw [hgetD] at hprespawned
    refine hprespawned.ok_iff hspawned hpos hsupplied fun request e hmem => ?_
    have hanswered := hlaunch _ (List.mem_append_left _ (List.mem_append_right _ hmem)) rfl
    cases hanswered

end

omit [SessionStore S] in
/-- The room that a recovery leaves is what the configuration grants beside the kernels that were
taken over. -/
theorem hasRoom_of_recovered {store : S} {r : Registry S} {turns : List Turn}
    {report : RecoveryReport} (h : TookTurns Holds (registryOf c parts store) d turns report r)
    (n : Nat) :
    r.fleet.HasRoom (r.fleet.userOf .silent) n ↔ c.policy.admits parts.gatewayUser = true ∧
      (∀ max, c.maxKernels? = some max → r.fleet.kernels.size + n ≤ max) ∧
      (c.maxKernelsPerUser < 0 ∨
        (r.fleet.tracked (Fleet.ownedBy parts.gatewayUser) + n : Int) ≤ c.maxKernelsPerUser) := by
  have hrest := h.fleet.rest
  have hlimit := h.fleet.userLimit
  have hsound : Fleet.Traffic.Sound ⟨r.fleet, []⟩ :=
    h.fleet.sound (Fleet.Traffic.sound_empty _ c.maxKernelsPerUser parts.supply)
  have hpolicy : r.fleet.rules.policy = c.policy := by
    rw [hrest]
    rfl
  have hmax : r.fleet.rules.maxKernels? = c.maxKernels? := by
    rw [hrest]
    rfl
  have huser : r.fleet.userOf .silent = parts.gatewayUser := by
    rw [hrest]
    rfl
  rw [huser]
  constructor
  · rintro ⟨hadmits, hgateway, hslot⟩
    rw [hpolicy] at hadmits
    rw [hmax] at hgateway
    rw [hlimit, hsound.active_eq] at hslot
    exact ⟨hadmits, hgateway, hslot⟩
  · rintro ⟨hadmits, hgateway, hslot⟩
    refine ⟨?_, ?_, ?_⟩
    · rw [hpolicy]
      exact hadmits
    · rw [hmax]
      exact hgateway
    · rw [hlimit, hsound.active_eq]
      exact hslot

/-- Every launcher brings a start to an end, and of every end it holds: if a check fails, no call
has been made and the store is as it was; if the interface or the default kernel is unknown, no
launch has been tried; after any error the life of the gateway is over. And past the checks, if
launches and reservations succeed, a start succeeds just if there is room for all kernels beside
those that were recovered; if it fails, it has ended all that it launched, each once, and none that
were recovered, and there are the recovered records and those of kernels that could not be ended. -/
theorem start_of_starts (hs : Reliable Usable Holds) (hcontrol : control.phase = .uninitialized)
    (hd : ∀ s, parts.store = .ok s → Holds s d) (hfresh : parts.supply.FreshFor d)
    (husable : ∀ n, Usable (parts.supply.sessionId n)) :
    (∀ {ω : Type} (answer : ω → LauncherCall → Option Nat → ω × Reply) (w : ω),
      (∀ w call limit, (answer w call limit).2.Possible limit) →
      ∃ o, Starts c parts control o ∧ Follows answer w o.calls) ∧
    ∀ o, Starts c parts control o →
      (Unready c parts →
        (∃ e, o.result = .error e) ∧ o.calls = [] ∧ o.store = parts.store) ∧
      (¬ Known c → (∃ e, o.result = .error e) ∧ ∀ e ∈ o.calls, e.1.kind ≠ .launch) ∧
      (∀ e, o.result = .error e → o.control.phase = .stopped) ∧
      (¬ Unready c parts → ∃ store before after report r, parts.store = .ok store ∧
        o.calls = before ++ after ∧
        startSessions.Ends Registry.Passes (registryOf c parts store) before r report ∧
        (Known c → (∀ e ∈ o.calls, e.1.kind = .launch → e.2 = some (.ok ())) →
          (∀ n, ∃ ports, c.portRange.reserve (parts.supply.ports n) portsPerKernel = .ok ports) →
          ∀ n, c.prespawn? = some n → 0 < n →
            (o.result = .ok () ↔ c.policy.admits parts.gatewayUser = true ∧
              (∀ max, c.maxKernels? = some max → r.fleet.kernels.size + n ≤ max) ∧
              (c.maxKernelsPerUser < 0 ∨
                (r.fleet.tracked (Fleet.ownedBy parts.gatewayUser) + n : Int) ≤
                  c.maxKernelsPerUser))) ∧
        ∀ e, o.result = .error e → ∃ made s d', launchesOf o.calls = made.map (·.request) ∧
          o.store = .ok s ∧ Holds s d' ∧
          RolledBack r (d.filter fun session _ => decide (session ∈ report.recovered)) made
            (terminationsOf o.calls) d') := by
  refine ⟨fun answer w hanswer => exists_starts answer hanswer w c parts control, fun o h => ?_⟩
  by_cases hunready : Unready c parts
  · obtain ⟨herror, hcalls, hstore, hphase⟩ := starts_unready hcontrol h hunready
    refine ⟨fun _ => ⟨herror, hcalls, hstore⟩, fun _ => ⟨herror, ?_⟩, fun _ _ => hphase,
      fun hready => absurd hunready hready⟩
    rw [hcalls]
    exact List.forall_mem_nil _
  -- Past the checks the start recovers what was recorded, and then launches.
  obtain ⟨store, g, g', before, after, report, r, hstore, hcatalog, rfl, hcalls, hstart, hbrought,
    hstore', hcontrol'⟩ := starts_ready hs hcontrol hd hfresh husable h hunready
  have hprobes : ∀ e ∈ before, e.1.kind = .probe := probes_of_ends hs (hd store hstore) hstart
  obtain ⟨turns, -, hturns⟩ := exists_tookTurns hs (hd store hstore) hstart
  have hfiled : Filed d := hs.filed (hd store hstore)
  refine ⟨fun h' => absurd h' hunready, fun hunknown => ?_, fun e he => ?_, fun _ =>
    ⟨store, before, after, report, r, hstore, hcalls, hstart,
      fun hknown hlaunch hports n hn hpos => ?_, fun e he => ?_⟩⟩
  · have hclosed := mt (servable_iff hcatalog).1 hunknown
    obtain ⟨herror, rfl⟩ := hbrought.of_not_servable hclosed
    refine ⟨herror, fun e he hkind => ?_⟩
    rw [hcalls, List.append_nil] at he
    rw [hprobes e he] at hkind
    cases hkind
  · rw [he] at hbrought
    rw [hcontrol']
    exact hbrought.rolledBack.1
  · rw [← hasRoom_of_recovered hturns]
    refine hbrought.ok_iff ((servable_iff hcatalog).2 hknown) ?_ ?_ hn hpos
    · intro e he
      refine hlaunch e ?_
      rw [hcalls]
      exact List.mem_append_right _ he
    · intro k
      unfold Fleet.Supplied
      rw [hturns.fleet.rest]
      exact hports k
  · rw [he] at hbrought
    obtain ⟨-, made, d', hmade, hholds, hback⟩ := hbrought.rolledBack
    rw [hturns.kept_eq hfiled] at hback
    obtain ⟨hnolaunch, hnotermination⟩ := of_probes hprobes
    rw [hcalls, launchesOf_append, terminationsOf_append, hnolaunch, hnotermination]
    exact ⟨made, _, d', hmade, hstore', hholds, hback⟩

/-- A gateway that may have one kernel of its own, and is to launch two, beside those left over. -/
def crowded : Config := { Config.standard with prespawn? := some 2, maxKernelsPerUser := 1 }

def crowdedParts : Parts MemoryStore := ⟨"gateway", tallied, none, .ok leftOver, true⟩

/-- A launcher that does all it is told to, but never ends a kernel. -/
def reluctant (_ : Unit) (call : LauncherCall) (_ : Option Nat) : Unit × Reply :=
  if call.kind = .terminate then ((), some (.error (.recovery .timedOut))) else ((), some (.ok ()))

theorem possible_reluctant (w : Unit) (call : LauncherCall) (limit : Option Nat) :
    (reluctant w call limit).2.Possible limit := by
  unfold reluctant
  split <;> exact Reply.possible_some _ _

theorem ready_crowded : ¬ Unready crowded crowdedParts := by
  rintro (hfault | hfault | hfault | ⟨-, hmax, -⟩)
  · have hcatalog : (Catalog.ofSpecs crowded.specs).isOk = true := by decide +kernel
    rw [hfault] at hcatalog
    cases hcatalog
  · cases hfault
  · cases hfault
  · cases hmax

/-- The second launch finds no room; the launcher is asked to end the kernel of the first, and as it
does not, the record of that kernel stays. -/
theorem start_of_crowded :
    ∃ (o : StartOutcome MemoryStore) (made : List Spawn) (s : MemoryStore),
      Starts crowded crowdedParts .initial o ∧ (∃ e, o.result = .error e) ∧
      o.control.phase = .stopped ∧ launchesOf o.calls = made.map (·.request) ∧
      ((terminationsOf o.calls).map (·.1)).Perm (made.map (·.request.handle)) ∧ o.store = .ok s ∧
      ∀ m ∈ made, s.get? m.session = some m.record := by
  have hd : ∀ s, crowdedParts.store = .ok s → s = leftOver ∧ Filed leftOver := by
    rintro s ⟨⟩
    exact ⟨rfl, filed_leftOver⟩
  have hcontrol : Coordinator.initial.phase = .uninitialized := rfl
  obtain ⟨hends, hall⟩ := start_of_starts (c := crowded) reliable_memory hcontrol hd
    (fresh_of_tallied (by decide +kernel) (by decide +kernel)) fun _ => trivial
  obtain ⟨o, hstarts, hfollows⟩ := hends reluctant () possible_reluctant
  have hlaunch : ∀ e ∈ o.calls, e.1.kind = .launch → e.2 = some (.ok ()) :=
    hfollows.forall (P := fun call reply => call.kind = .launch → reply = some (.ok ()))
      fun w call limit hkind => by simp [reluctant, hkind]
  have hend : ∀ e ∈ o.calls, e.1.kind = .terminate → ∃ fault, e.2 = some (.error fault) :=
    hfollows.forall (P := fun call reply => call.kind = .terminate → ∃ e, reply = some (.error e))
      fun w call limit hkind => by simp [reluctant, hkind]
  obtain ⟨-, -, hstopped, hrest⟩ := hall o hstarts
  obtain ⟨store, before, after, report, r, -, -, -, hroom, hleft⟩ := hrest ready_crowded
  have hports :
      ∃ ports, crowded.portRange.reserve (tallied.ports 0) portsPerKernel = .ok ports := by
    have hreserved : (crowded.portRange.reserve (tallied.ports 0) portsPerKernel).isOk = true := by
      decide +kernel
    cases hreserve : crowded.portRange.reserve (tallied.ports 0) portsPerKernel with
    | error e =>
      rw [hreserve] at hreserved
      cases hreserved
    | ok ports => exact ⟨ports, rfl⟩
  have hiff := hroom ⟨rfl, by decide +kernel⟩ hlaunch (fun _ => hports) 2 rfl Nat.two_pos
  cases hresult : o.result with
  | ok _ =>
    obtain ⟨-, -, hslot⟩ := hiff.1 hresult
    have hlimit : crowded.maxKernelsPerUser = 1 := rfl
    rw [hlimit] at hslot
    omega
  | error e =>
    obtain ⟨made, s, d', hmade, hstore, ⟨rfl, -⟩, hback⟩ := hleft e hresult
    refine ⟨o, made, s, hstarts, ⟨e, hresult⟩, hstopped e hresult, hmade, hback.once, hstore,
      fun m hm => (hback.records _ _).2 (.inr ⟨m, hm, ?_, rfl, rfl⟩)⟩
    have hasked := hback.once.mem_iff.2 (List.mem_map_of_mem hm)
    obtain ⟨⟨k, reply⟩, hmem, hk⟩ := List.mem_map.1 hasked
    obtain ⟨fault, hfault⟩ := hend _ (mem_terminationsOf.1 hmem) rfl
    obtain rfl : reply = some (.error fault) := hfault
    obtain rfl : k = m.request.handle := hk
    exact ⟨fault, hmem⟩

end Gateway

end KernelGate
