import KernelGate.Proofs.Fleet.Figures
import KernelGate.Proofs.Registry.Sequential
import Mathlib.Algebra.GroupWithZero.Nat

/-!
# Figures and what they count

What was done to a registry, one operation after another, whatever the launcher answers and the
store does, and what the figures tell of it: how many kernels are tracked, the launches that were
refused for each reason, the sessions that were reported as taken over and as dropped, and the
kernels that were reported as culled.

Main statements: `tells_of_does` (what an operation adds to the figures), `agrees_of_chronicle` (the
figures agree with all that was done), `figures_of_chronicle`.
-/

namespace KernelGate

namespace Registry

open Activity

variable {S : Type} [SessionStore S] {r r' start : Registry S} {calls : Calls}

/-! ## What an operation adds

The operations of a registry are followed down to those of its fleet, which set the gauge and count
refusals. What a registry counts itself are the sessions that it takes over or drops, one by one,
and the kernels that a pass culls, all at once. -/

/-- What an operation of the registry has come to, as far as it is counted. -/
inductive Deed where
  /-- A launch that was refused. -/
  | refused (reason : Refusal)
  /-- A launch that broke no rule, whatever has become of it. -/
  | launch
  /-- Kernels were to be ended: one, or all. -/
  | ending
  | recovery (report : RecoveryReport)
  | cull (stopped : Nat)
  | touch
  deriving DecidableEq

namespace Deed

/-- Sessions that were taken over. -/
def recovered : Deed → Nat
  | recovery report => report.recovered.length
  | _ => 0

/-- Sessions that were dropped. -/
def dropped : Deed → Nat
  | recovery report => report.dropped.length
  | _ => 0

/-- Kernels that were culled. -/
def culled : Deed → Nat
  | cull stopped => stopped
  | _ => 0

end Deed

/-- The figures tell of a deed. -/
structure Tells (f : Fleet) (d : Deed) (g : Fleet) : Prop where
  refused : ∀ reason,
    g.metrics.refused reason = f.metrics.refused reason + [d].count (.refused reason)
  recovered : g.metrics.recovered = f.metrics.recovered + d.recovered
  dropped : g.metrics.dropped = f.metrics.dropped + d.dropped
  culled : g.metrics.culled = f.metrics.culled + d.culled
  gauged : f.Gauged → g.Gauged

/-- Of a launch the figures see what the fleet did, since keeping a record counts nothing. -/
theorem fleet_of_startKernel {spec : KernelSpec} {p : LaunchParams} {x : Result SessionRecord}
    (h : (startKernel spec p).Ends Passes r calls r' x) :
    ∃ y, (Fleet.create spec p).Ends Fleet.Passes r.fleet calls r'.fleet y ∧
      ∀ e, x = .error e ↔ y = .error e := by
  obtain ⟨r₁, created, _, _, h₁, h₂, rfl⟩ := ends_bind_iff.1 h
  obtain ⟨g, hg, rfl⟩ := ends_onFleet h₁
  refine ⟨created, ?_⟩
  cases created with
  | error e =>
    obtain ⟨rfl, rfl, rfl⟩ := ends_done_iff.1 h₂
    rw [List.append_nil]
    exact ⟨hg, fun e' => by simp⟩
  | ok k =>
    obtain ⟨record, h₃, rfl⟩ := ends_map_iff.1 h₂
    obtain ⟨rfl, henlist⟩ := ends_atOnce_iff.1 h₃
    cases henlist
    rw [List.append_nil]
    exact ⟨hg, fun e' => by simp⟩

/-- A shutdown sets the gauge and counts nothing. -/
theorem regauged_shutdownKernel {id : String} {x : Result Unit}
    (h : (shutdownKernel id).Ends Passes r calls r' x) : r.fleet.Regauged r'.fleet := by
  obtain ⟨y, hy⟩ := fleet_of_shutdownKernel h
  exact .shutdown hy

theorem regauged_shutdownEach {ids : List String} {x : Nat}
    (h : (shutdownEach ids).Ends Passes r calls r' x) : r.fleet.Regauged r'.fleet := by
  induction ids generalizing r calls x with
  | nil =>
    obtain ⟨-, rfl, -⟩ := ends_done_iff.1 h
    exact .refl _
  | cons id rest ih =>
    obtain ⟨r₁, outcome, _, _, h₁, h₂, -⟩ := ends_bind_iff.1 h
    obtain ⟨stopped, h₃, -⟩ := ends_map_iff.1 h₂
    exact (regauged_shutdownKernel h₁).trans (ih h₃)

/-- What is not counted adds nothing. -/
theorem tells_of_regauged {f g : Fleet} {d : Deed} (h : f.Regauged g)
    (hrefused : ∀ reason, d ≠ .refused reason) (hrecovered : d.recovered = 0)
    (hdropped : d.dropped = 0) (hculled : d.culled = 0) : Tells f d g where
  refused reason := by
    rw [h.refused, List.count_singleton, if_neg (by simpa using hrefused reason), Nat.add_zero]
  recovered := by rw [h.recovered, hrecovered, Nat.add_zero]
  dropped := by rw [h.dropped, hdropped, Nat.add_zero]
  culled := by rw [h.culled, hculled, Nat.add_zero]
  gauged := h.gauged

/-- What comes before is not counted. -/
theorem Tells.after {f g k : Fleet} {d : Deed} (h : Tells g d k) (hbefore : f.Regauged g) :
    Tells f d k where
  refused reason := by rw [h.refused, hbefore.refused]
  recovered := by rw [h.recovered, hbefore.recovered]
  dropped := by rw [h.dropped, hbefore.dropped]
  culled := by rw [h.culled, hbefore.culled]
  gauged hf := h.gauged (hbefore.gauged hf)

/-- One session more is taken over before all that follows. -/
theorem Tells.recovering {f g : Fleet} {report : RecoveryReport} (session : String)
    (h : Tells { f with metrics := f.metrics.countRecovered } (.recovery report) g) :
    Tells f (.recovery { report with recovered := session :: report.recovered }) g where
  refused reason := by
    rw [h.refused]
    cases reason <;> rfl
  recovered := by
    rw [h.recovered]
    show f.metrics.recovered + 1 + report.recovered.length =
      f.metrics.recovered + (report.recovered.length + 1)
    omega
  dropped := h.dropped
  culled := h.culled
  gauged := h.gauged

/-- One session more is dropped before all that follows. -/
theorem Tells.dropping {f g : Fleet} {report : RecoveryReport} (session : String)
    (h : Tells { f with metrics := f.metrics.countDropped } (.recovery report) g) :
    Tells f (.recovery { report with dropped := session :: report.dropped }) g where
  refused reason := by
    rw [h.refused]
    cases reason <;> rfl
  recovered := h.recovered
  dropped := by
    rw [h.dropped]
    show f.metrics.dropped + 1 + report.dropped.length =
      f.metrics.dropped + (report.dropped.length + 1)
    omega
  culled := h.culled
  gauged := h.gauged

/-- Each record that has its turn is counted as it is reported. -/
theorem tells_recoverEach {limit : Nat} {records : List SessionRecord} {report : RecoveryReport}
    (h : (recoverEach limit records).Ends Passes r calls r' report) :
    Tells r.fleet (.recovery report) r'.fleet := by
  induction records generalizing r calls report with
  | nil =>
    obtain ⟨-, rfl, rfl⟩ := ends_done_iff.1 h
    exact tells_of_regauged (.refl _) nofun rfl rfl rfl
  | cons record rest ih =>
    obtain ⟨r₁, outcome, _, _, h₁, h₂, -⟩ := ends_bind_iff.1 h
    obtain ⟨g, hg, rfl⟩ := ends_onFleet h₁
    have htaken : r.fleet.Regauged g := .reattach hg
    cases outcome with
    | ok _ =>
      obtain ⟨report, h₃, rfl⟩ := ends_map_iff.1 (ends_change_bind_iff.1 h₂)
      exact (Tells.recovering record.sessionId (ih h₃)).after htaken
    | error e =>
      obtain ⟨report, h₃, rfl⟩ := ends_map_iff.1 (ends_change_bind_iff.1 h₂)
      exact (Tells.dropping record.sessionId (ih h₃)).after htaken

theorem tells_startSessions {report : RecoveryReport}
    (h : startSessions.Ends Passes r calls r' report) :
    Tells r.fleet (.recovery report) r'.fleet := by
  have h₁ := ends_look_bind_iff.1 h
  obtain ⟨r₂, found, _, _, h₂, h₃, -⟩ := ends_bind_iff.1 h₁
  obtain ⟨-, hrecords⟩ := ends_atOnce_iff.1 h₂
  -- Reading the store leaves the fleet.
  have hfleet : r₂.fleet = r.fleet := congrArg (·.1.fleet) hrecords.symm
  rw [← hfleet]
  exact tells_recoverEach h₃

/-- A pass is counted when it is over, by the number that it reports. -/
theorem tells_cull {ids : List String} {stopped : Nat}
    (h : (cull ids).Ends Passes r calls r' stopped) : Tells r.fleet (.cull stopped) r'.fleet := by
  obtain ⟨r₁, n, _, _, h₁, h₂, -⟩ := ends_bind_iff.1 h
  obtain ⟨_, h₃, rfl⟩ := ends_map_iff.1 h₂
  obtain ⟨-, rfl⟩ := ends_change_iff.1 h₃
  refine Tells.after ?_ (regauged_shutdownEach h₁)
  by_cases hzero : stopped = 0
  · rw [if_pos hzero]
    exact tells_of_regauged (.refl _) nofun rfl rfl hzero
  · rw [if_neg hzero]
    exact ⟨fun reason => by cases reason <;> rfl, rfl, rfl, rfl, id⟩

/-! ## Operations one after another

The counters go up by what each operation adds, so over a run they come to the sums. -/

/-- An operation that runs alone comes to this. -/
inductive Does (r : Registry S) : Deed → Registry S → Prop where
  | refused {spec : KernelSpec} {p : LaunchParams} {x : Result SessionRecord} {calls : Calls}
      {r' : Registry S} {reason : Refusal} :
      (startKernel spec p).Ends Passes r calls r' x → r.fleet.Refuses p reason →
      Does r (.refused reason) r'
  | launch {spec : KernelSpec} {p : LaunchParams} {x : Result SessionRecord} {calls : Calls}
      {r' : Registry S} :
      (startKernel spec p).Ends Passes r calls r' x → (∀ reason, ¬r.fleet.Refuses p reason) →
      Does r .launch r'
  | ending {id : String} {x : Result Unit} {calls : Calls} {r' : Registry S} :
      (shutdownKernel id).Ends Passes r calls r' x → Does r .ending r'
  | endingAll {calls : Calls} {r' : Registry S} :
      shutdownAll.Ends Passes r calls r' () → Does r .ending r'
  /-- The order in which all kernels are ended does not matter. -/
  | endingEach {ids : List String} {n : Nat} {calls : Calls} {r' : Registry S} :
      (shutdownEach ids).Ends Passes r calls r' n → Does r .ending r'
  | recovery {report : RecoveryReport} {calls : Calls} {r' : Registry S} :
      startSessions.Ends Passes r calls r' report → Does r (.recovery report) r'
  | cull {millis : Nat} {stopped : Nat} {calls : Calls} {r' : Registry S} :
      (cullIdle millis).Ends Passes r calls r' stopped → Does r (.cull stopped) r'
  /-- Nor does the order in which idle kernels are found. -/
  | cullEach {ids : List String} {stopped : Nat} {calls : Calls} {r' : Registry S} :
      (Registry.cull ids).Ends Passes r calls r' stopped → Does r (.cull stopped) r'
  | touch (id : String) : Does r .touch { r with fleet := r.fleet.touch id }

/-- An operation adds to the figures what it comes to, and sets the gauge. -/
theorem tells_of_does {d : Deed} (h : Does r d r') : Tells r.fleet d r'.fleet := by
  cases h with
  | refused hends hrefuses =>
    obtain ⟨y, hy, -⟩ := fleet_of_startKernel hends
    obtain ⟨reason, hreason, hfleet, -, -⟩ | ⟨hpass, -⟩ := Fleet.launch_cases hy
    · rw [hfleet, Fleet.refuses_unique hrefuses hreason]
      refine ⟨fun other => ?_, ?_, ?_, ?_, ?_⟩
      · rw [Fleet.refuse, Metrics.refused_countRefusal, List.count_singleton]
        by_cases hsame : other = reason
        · simp [hsame]
        · simp [hsame, Ne.symm hsame]
      all_goals cases reason
      all_goals first | rfl | exact id
    · exact absurd hrefuses (Fleet.not_refuses_of_letsPass hpass _)
  | launch hends hpass =>
    obtain ⟨y, hy, -⟩ := fleet_of_startKernel hends
    obtain ⟨reason, hreason, -⟩ | ⟨-, hregauged, -⟩ := Fleet.launch_cases hy
    · exact absurd hreason (hpass reason)
    · exact tells_of_regauged hregauged nofun rfl rfl rfl
  | ending hends => exact tells_of_regauged (regauged_shutdownKernel hends) nofun rfl rfl rfl
  | endingAll hends =>
    obtain ⟨n, hn, -⟩ := ends_map_iff.1 (ends_look_bind_iff.1 hends)
    exact tells_of_regauged (regauged_shutdownEach hn) nofun rfl rfl rfl
  | endingEach hends => exact tells_of_regauged (regauged_shutdownEach hends) nofun rfl rfl rfl
  | recovery hends => exact tells_startSessions hends
  | cull hends => exact tells_cull (ends_look_bind_iff.1 hends)
  | cullEach hends => exact tells_cull hends
  | touch id => exact tells_of_regauged (.touch _ id) nofun rfl rfl rfl

/-- What has been done to a registry, one operation after another, and as time goes on. -/
inductive Chronicle (start : Registry S) : List Deed → Registry S → Prop where
  | start : Chronicle start [] start
  | passes {log : List Deed} {r r' : Registry S} :
      Chronicle start log r → Passes r r' → Chronicle start log r'
  | does {log : List Deed} {d : Deed} {r r' : Registry S} :
      Chronicle start log r → Does r d r' → Chronicle start (log ++ [d]) r'

/-- The figures agree with what has been done. -/
structure Agrees (log : List Deed) (f : Fleet) : Prop where
  refused : ∀ reason, f.metrics.refused reason = log.count (.refused reason)
  recovered : f.metrics.recovered = (log.map Deed.recovered).sum
  dropped : f.metrics.dropped = (log.map Deed.dropped).sum
  culled : f.metrics.culled = (log.map Deed.culled).sum
  gauged : f.Gauged

theorem agrees_empty (rules : FleetRules) (limit : Int) (supply : Supply) :
    Agrees [] (.empty rules limit supply) :=
  ⟨fun reason => by cases reason <;> rfl, rfl, rfl, rfl, Fleet.gauged_empty rules limit supply⟩

theorem Agrees.regauged {log : List Deed} {f g : Fleet} (h : Agrees log f) (hg : f.Regauged g) :
    Agrees log g where
  refused reason := by rw [hg.refused, h.refused]
  recovered := by rw [hg.recovered, h.recovered]
  dropped := by rw [hg.dropped, h.dropped]
  culled := by rw [hg.culled, h.culled]
  gauged := hg.gauged h.gauged

theorem Agrees.tells {log : List Deed} {d : Deed} {f g : Fleet} (h : Agrees log f)
    (hd : Tells f d g) : Agrees (log ++ [d]) g where
  refused reason := by rw [hd.refused, h.refused, List.count_append]
  recovered := by simp [hd.recovered, h.recovered]
  dropped := by simp [hd.dropped, h.dropped]
  culled := by simp [hd.culled, h.culled]
  gauged := hd.gauged h.gauged

/-- By induction on the run: an operation tells of its deed, and time counts nothing. -/
theorem agrees_of_chronicle {log : List Deed} (hstart : Agrees [] start.fleet)
    (h : Chronicle start log r) : Agrees log r.fleet := by
  induction h with
  | start => exact hstart
  | passes _ hpasses ih =>
    obtain ⟨millis, rfl⟩ := hpasses
    exact ih.regauged (.passes ⟨millis, rfl⟩)
  | does _ hdoes ih => exact ih.tells (tells_of_does hdoes)

/-- After any operations one after another the figures that are shown are those of what was done. A
launch that was refused is one that failed with the fault of that refusal and without a call; a
launch for which ports were tried is counted nowhere. -/
theorem figures_of_chronicle {rules : FleetRules} {limit : Int} {supply : Supply} {store : S}
    {recoveryLimit : Nat} {log : List Deed}
    (h : Chronicle (new (.empty rules limit supply) store recoveryLimit) log r) :
    (r.fleet.metrics.shown "gateway_kernels_active" = r.fleet.kernels.size ∧
      (∀ reason : Refusal, r.fleet.metrics.shown
          ("gateway_launch_rejected_total\x7breason=" ++ reason.label ++ "\x7d") =
        log.count (.refused reason)) ∧
      r.fleet.metrics.shown "gateway_sessions_recovered_total\x7boutcome=recovered\x7d" =
        (log.map Deed.recovered).sum ∧
      r.fleet.metrics.shown "gateway_sessions_recovered_total\x7boutcome=dropped\x7d" =
        (log.map Deed.dropped).sum ∧
      r.fleet.metrics.shown "gateway_kernels_culled_total" = (log.map Deed.culled).sum) ∧
    ∀ spec p calls r' x, (startKernel spec p).Ends Passes r calls r' x →
      (∀ reason, r.fleet.Refuses p reason ↔
        calls = [] ∧ x = .error (r.fleet.refusalFault p reason)) ∧
      (calls ≠ [] ∨ r'.fleet.reservations ≠ r.fleet.reservations →
        ∀ reason, r'.fleet.metrics.refused reason = r.fleet.metrics.refused reason) := by
  have hagrees := agrees_of_chronicle (agrees_empty rules limit supply) h
  refine ⟨⟨?_, ?_, ?_, ?_, ?_⟩, ?_⟩
  · rw [Metrics.shown_active]
    exact hagrees.gauged
  · intro reason
    rw [← hagrees.refused]
    exact Metrics.shown_refused _ reason
  · rw [← hagrees.recovered]
    exact Metrics.shown_of_mem (e := (_, r.fleet.metrics.recovered)) (by simp [Metrics.counters])
  · rw [← hagrees.dropped]
    exact Metrics.shown_of_mem (e := (_, r.fleet.metrics.dropped)) (by simp [Metrics.counters])
  · rw [← hagrees.culled]
    exact Metrics.shown_of_mem (e := (_, r.fleet.metrics.culled)) (by simp [Metrics.counters])
  · intro spec p calls r' x hends
    obtain ⟨y, hy, hx⟩ := fleet_of_startKernel hends
    constructor
    · intro reason
      rw [hx]
      exact Fleet.refuses_iff_of_ends hy
    · intro htried reason
      obtain ⟨reason', -, hfleet, rfl, -⟩ | ⟨-, hregauged, -⟩ := Fleet.launch_cases hy
      · rw [hfleet] at htried
        exact absurd htried (by simp [Fleet.refuse])
      · exact hregauged.refused reason

/-! ### A gateway that inherits its only kernel -/

/-- Everybody may have one kernel, and a record of bob's was left over. -/
def frugal : Registry MemoryStore :=
  new (.empty (Fleet.openRules none) 1 Fleet.plainSupply)
    (.ofList [("first", ⟨"first", ⟨"k", "python3", "bob", "localhost", []⟩, .silent⟩)]) 1000

/-- Bob's kernel is taken over. -/
def inheriting : Registry MemoryStore × RecoveryReport :=
  (startSessions.run (answering (.ok ())) () frugal).2

/-- Bob gets no other one. -/
def refusing : Registry MemoryStore :=
  ((startKernel .python (.forUser "bob")).run (answering (.ok ())) () inheriting.1).2.1

/-- The kernel that nobody uses is ended. -/
def deserted : Registry MemoryStore × Nat :=
  ((cullIdle 0).run (answering (.ok ())) () refusing).2

/-- A kernel is inherited, another one is refused for it, and then it is culled. -/
theorem chronicle_deserted :
    Chronicle frugal [.recovery ⟨["first"], []⟩, .refused .userFull, .cull 1] deserted.1 := by
  have hends {α : Type} (a : Activity (Registry MemoryStore) α) (r : Registry MemoryStore) :
      ∃ calls, a.Ends Passes r calls (a.run (answering (.ok ())) () r).2.1
        (a.run (answering (.ok ())) () r).2.2 :=
    ends_run _ (fun _ => ⟨0, rfl⟩) (fun _ _ limit => Reply.possible_some limit _) a () r
  obtain ⟨_, hinheriting⟩ := hends startSessions frugal
  obtain ⟨_, hrefusing⟩ := hends (startKernel .python (.forUser "bob")) inheriting.1
  obtain ⟨_, hdeserted⟩ := hends (cullIdle 0) refusing
  have hrefuses : inheriting.1.fleet.Refuses (.forUser "bob") .userFull := by
    refine .userFull ?_ nofun (by decide +kernel) (by decide +kernel)
    rw [← Policy.admits_iff_not_denies]
    decide +kernel
  have hreport : inheriting.2 = ⟨["first"], []⟩ := by decide +kernel
  have hstopped : deserted.2 = 1 := by decide +kernel
  have hrecovery : Does frugal (.recovery inheriting.2) inheriting.1 := .recovery hinheriting
  have hcull : Does refusing (.cull deserted.2) deserted.1 := .cull hdeserted
  rw [hreport] at hrecovery
  rw [hstopped] at hcull
  exact ((Chronicle.start.does hrecovery).does (.refused hrefusing hrefuses)).does hcull

theorem figures_of_deserted :
    Chronicle frugal [.recovery ⟨["first"], []⟩, .refused .userFull, .cull 1] deserted.1 ∧
      deserted.1.fleet.metrics.shown "gateway_kernels_active" = 0 ∧
      deserted.1.fleet.metrics.shown
        "gateway_launch_rejected_total\x7breason=max_kernels_per_user\x7d" = 1 ∧
      deserted.1.fleet.metrics.shown
        "gateway_sessions_recovered_total\x7boutcome=recovered\x7d" = 1 ∧
      deserted.1.fleet.metrics.shown "gateway_kernels_culled_total" = 1 := by
  obtain ⟨⟨hactive, hrefused, hrecovered, -, hculled⟩, -⟩ :=
    figures_of_chronicle chronicle_deserted
  exact ⟨chronicle_deserted, hactive.trans (by decide +kernel), hrefused .userFull, hrecovered,
    hculled⟩

end Registry

end KernelGate
