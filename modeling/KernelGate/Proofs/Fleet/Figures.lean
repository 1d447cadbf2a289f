import KernelGate.Proofs.Fleet.Admission

/-!
# The figures of a fleet

The figures that the gateway shows its operators, and what the operations of a fleet do to them,
whatever the launcher answers. The gauge is set by hand wherever a kernel comes or goes, also where
one that could not be ended is put back. A refusal is counted where a launch breaks a rule, and
nothing is counted on the way that a launch takes from there.

Main statements: `Metrics.shown_of_mem` (what is shown of a counter), `launch_cases` (what a launch
adds to the figures), `refuses_iff_of_ends` (a launch that breaks a rule is told by what comes of
it).
-/

namespace KernelGate

/-! ## What is shown

Figures are shown by name, and a counter at zero is not shown at all. Since no two counters have the
same name, what is shown under one is that counter. -/

namespace Metrics

/-- A figure by its name; one that is not shown is zero. -/
def shown (m : Metrics) (name : String) : Nat :=
  ((m.entries.find? (·.1 = name)).map (·.2)).getD 0

/-- Where names are different, the entry of a name is the one that is found. -/
theorem find?_of_mem {l : List (String × Nat)} (hnames : (l.map (·.1)).Nodup) {e : String × Nat}
    (he : e ∈ l) : l.find? (·.1 = e.1) = some e := by
  induction l with
  | nil => cases he
  | cons first rest ih =>
    obtain ⟨hother, hrest⟩ := List.nodup_cons.1 hnames
    obtain rfl | he := List.mem_cons.1 he
    · exact List.find?_cons_of_pos (decide_eq_true rfl)
    · have hne : first.1 ≠ e.1 := by
        intro heq
        exact hother (List.mem_map.2 ⟨e, he, heq.symm⟩)
      rw [List.find?_cons_of_neg (by simpa using hne)]
      exact ih hrest he

/-- The figure of the launches that are refused for a reason. -/
def refusalFigure (r : Refusal) : String :=
  "gateway_launch_rejected_total\x7breason=" ++ r.label ++ "\x7d"

/-- The counters by their names, those that are zero too. -/
def counters (m : Metrics) : List (String × Nat) :=
  [(refusalFigure .unauthorized, m.unauthorized), (refusalFigure .gatewayFull, m.gatewayFull),
    (refusalFigure .userFull, m.userFull),
    ("gateway_sessions_recovered_total\x7boutcome=recovered\x7d", m.recovered),
    ("gateway_sessions_recovered_total\x7boutcome=dropped\x7d", m.dropped),
    ("gateway_kernels_culled_total", m.culled)]

/-- What is shown is the gauge, once it was set, and each counter that is not at zero. -/
theorem entries_eq (m : Metrics) :
    m.entries = (m.active?.toList.map fun n => ("gateway_kernels_active", n)) ++
      m.counters.filter fun e => e.2 ≠ 0 := rfl

/-- No two figures have the same name, the gauge among them. -/
theorem counters_names (m : Metrics) :
    ("gateway_kernels_active" :: m.counters.map (·.1)).Nodup := by
  have hnames : m.counters.map (·.1) = zero.counters.map (·.1) := rfl
  rw [hnames]
  decide +kernel

/-- The gauge is shown under its name; before it was first set nothing is, which reads as zero. -/
theorem shown_active (m : Metrics) : m.shown "gateway_kernels_active" = m.active?.getD 0 := by
  have hnone : (m.counters.filter fun e => e.2 ≠ 0).find? (·.1 = "gateway_kernels_active") =
      none := by
    apply List.find?_eq_none.2
    intro e he heq
    apply (List.nodup_cons.1 m.counters_names).1
    rw [← of_decide_eq_true heq]
    exact List.mem_map_of_mem (List.mem_filter.1 he).1
  rw [shown, entries_eq, List.find?_append, hnone]
  cases m.active? <;> rfl

/-- A counter that is zero is not shown, which comes to the same. -/
theorem shown_of_mem {m : Metrics} {e : String × Nat} (he : e ∈ m.counters) :
    m.shown e.1 = e.2 := by
  obtain ⟨hgauge, hcounters⟩ := List.nodup_cons.1 m.counters_names
  have hne : "gateway_kernels_active" ≠ e.1 := by
    intro heq
    rw [heq] at hgauge
    exact hgauge (List.mem_map_of_mem he)
  have hnone : (m.active?.toList.map fun n => ("gateway_kernels_active", n)).find? (·.1 = e.1) =
      none := by
    cases m.active? <;> simp [hne]
  rw [shown, entries_eq, List.find?_append, hnone, Option.none_or]
  by_cases hzero : e.2 = 0
  · cases hfind : (m.counters.filter fun e => e.2 ≠ 0).find? (·.1 = e.1) with
    | none => exact hzero.symm
    | some found =>
      -- No other counter has this name, and this one is left out.
      obtain ⟨hfound, hnonzero⟩ := List.mem_filter.1 (List.mem_of_find?_eq_some hfind)
      have hname : found.1 = e.1 := by simpa using List.find?_some hfind
      have hsame := find?_of_mem hcounters hfound
      rw [hname, find?_of_mem hcounters he] at hsame
      cases hsame
      exact absurd hzero (by simpa using hnonzero)
  · have hkept : e ∈ m.counters.filter fun e => e.2 ≠ 0 :=
      List.mem_filter.2 ⟨he, decide_eq_true hzero⟩
    have hnodup : ((m.counters.filter fun e => e.2 ≠ 0).map (·.1)).Nodup :=
      hcounters.sublist (List.filter_sublist.map _)
    rw [find?_of_mem hnodup hkept]
    rfl

/-- The refusals for each reason have a counter of their own. -/
theorem shown_refused (m : Metrics) (r : Refusal) : m.shown (refusalFigure r) = m.refused r := by
  cases r with
  | unauthorized => exact shown_of_mem (.head _)
  | gatewayFull => exact shown_of_mem (.tail _ (.head _))
  | userFull => exact shown_of_mem (.tail _ (.tail _ (.head _)))

end Metrics

namespace Fleet

open Activity

variable {f g k : Fleet} {spec : KernelSpec} {p : LaunchParams} {reason : Refusal} {calls : Calls}

/-! ## Why a launch is refused

A launch may break several rules, and is refused for the first of them. That fault and the counter
that goes up are those of the same reason, so each can be told from the other. -/

/-- A launch breaks a rule, and this is the first that it breaks. -/
inductive Refuses (f : Fleet) (p : LaunchParams) : Refusal → Prop where
  | unauthorized : f.rules.policy.Denies (f.userOf p) → Refuses f p .unauthorized
  | gatewayFull {max : Nat} : ¬f.rules.policy.Denies (f.userOf p) →
      f.rules.maxKernels? = some max → max ≤ f.kernels.size → Refuses f p .gatewayFull
  | userFull : ¬f.rules.policy.Denies (f.userOf p) →
      (∀ max, f.rules.maxKernels? = some max → f.kernels.size < max) →
      0 ≤ f.ledger.limit → f.ledger.limit ≤ f.ledger.active (f.userOf p) → Refuses f p .userFull

/-- The fault by which a refusal is told. -/
def refusalFault (f : Fleet) (p : LaunchParams) : Refusal → Fault
  | .unauthorized => .unauthorized (f.userOf p)
  | .gatewayFull => .quotaExceeded (.gatewayFull (f.rules.maxKernels?.getD 0))
  | .userFull => .quotaExceeded (.userFull (f.userOf p) f.ledger.limit)

/-- Faults of different reasons are different, so that the reason can be told from the answer. -/
theorem refusalFault_injective (f : Fleet) (p : LaunchParams) :
    Function.Injective (f.refusalFault p) := by
  intro r s h
  cases r <;> cases s <;> first | rfl | cases h

/-- A launch that breaks no rule is not refused for any reason. -/
theorem not_refuses_of_letsPass (h : f.LetsPass p) (reason : Refusal) : ¬f.Refuses p reason := by
  rintro (hdenied | ⟨-, hmax, hle⟩ | ⟨-, -, hnonneg, hle⟩)
  · exact h.notDenied hdenied
  · exact absurd (h.notFull _ hmax) (Nat.not_lt.2 hle)
  · have hslot := h.slot
    omega

/-- There is one first rule that is broken. -/
theorem refuses_unique {reason' : Refusal} (h : f.Refuses p reason) (h' : f.Refuses p reason') :
    reason = reason' := by
  cases h with
  | unauthorized hdenied =>
    cases h' with
    | unauthorized => rfl
    | gatewayFull hnot => exact absurd hdenied hnot
    | userFull hnot => exact absurd hdenied hnot
  | gatewayFull hnot hmax hle =>
    cases h' with
    | unauthorized hdenied => exact absurd hdenied hnot
    | gatewayFull => rfl
    | userFull _ hroom => exact absurd (hroom _ hmax) (Nat.not_lt.2 hle)
  | userFull hnot hroom =>
    cases h' with
    | unauthorized hdenied => exact absurd hdenied hnot
    | gatewayFull _ hmax hle => exact absurd (hroom _ hmax) (Nat.not_lt.2 hle)
    | userFull => rfl

/-- Ports are tried; no kernel comes or goes, and nothing is counted. -/
structure TriesPorts (f g : Fleet) : Prop where
  kernels : g.kernels = f.kernels
  metrics : g.metrics = f.metrics
  reservations : g.reservations = f.reservations + 1

/-- Before the launcher is called a launch is refused for the rule that it breaks, or it breaks none
and ports are tried. -/
theorem admitLaunch_cases (f : Fleet) (spec : KernelSpec) (p : LaunchParams) :
    (∃ reason, f.Refuses p reason ∧
      f.admitLaunch spec p = (f.refuse reason, .error (f.refusalFault p reason))) ∨
    f.LetsPass p ∧ f.TriesPorts (f.admitLaunch spec p).1 ∧
      ∀ e, (f.admitLaunch spec p).2 = .error e →
        f.rules.portRange.reserve (f.supply.ports f.reservations) portsPerKernel = .error e := by
  by_cases hdenied : f.rules.policy.Denies (f.userOf p)
  · have hpolicy : f.rules.policy.admits (f.userOf p) = false := by
      rw [← Bool.not_eq_true, Policy.admits_iff_not_denies, not_not]
      exact hdenied
    exact .inl ⟨_, .unauthorized hdenied, by simp [admitLaunch, hpolicy, refusalFault]⟩
  have hpolicy := Policy.admits_iff_not_denies.2 hdenied
  by_cases hfull : f.isFull = true
  · cases hmax : f.rules.maxKernels? with
    | none => simp [isFull, hmax] at hfull
    | some max =>
      have hle : max ≤ f.kernels.size := by simpa [isFull, hmax] using hfull
      exact .inl ⟨_, .gatewayFull hdenied hmax hle, by
        simp [admitLaunch, hpolicy, hfull, refusalFault, hmax]⟩
  have hroom : ∀ max, f.rules.maxKernels? = some max → f.kernels.size < max := by
    intro max hmax
    simpa [isFull, hmax] using hfull
  -- The last check takes a slot in passing, which the counters do not show.
  cases hslot : f.ledger.acquire? (f.userOf p) with
  | none =>
    obtain ⟨hnonneg, hle⟩ := Ledger.acquire?_eq_none_iff.1 hslot
    exact .inl ⟨_, .userFull hdenied hroom hnonneg hle, by
      simp [admitLaunch, hpolicy, hfull, hslot, refusalFault]⟩
  | some ledger =>
    have hfree : f.ledger.limit < 0 ∨ (f.ledger.active (f.userOf p) : Int) < f.ledger.limit := by
      have hne : f.ledger.acquire? (f.userOf p) ≠ none := by simp [hslot]
      rw [ne_eq, Ledger.acquire?_eq_none_iff] at hne
      omega
    refine .inr ⟨⟨hdenied, hroom, hfree⟩, ?_⟩
    cases hports : f.rules.portRange.reserve (f.supply.ports f.reservations) portsPerKernel with
    | error e =>
      constructor <;> simp only [admitLaunch, hpolicy, hfull, hslot, hports, Bool.not_true,
        Bool.false_eq_true, ↓reduceIte]
      · exact ⟨rfl, rfl, rfl⟩
      · intro e' he
        cases he
        rfl
    | ok ports =>
      constructor <;> simp only [admitLaunch, hpolicy, hfull, hslot, hports, prepare,
        Bool.not_true, Bool.false_eq_true, ↓reduceIte]
      · exact ⟨rfl, rfl, rfl⟩
      · intro e he
        cases he

/-! ## The gauge

The gauge is not computed from the kernels but set, wherever their number changes. `Regauged` says
of an operation that it leaves it right, and adds to no counter; this goes on from step to step. -/

/-- The gauge shows how many kernels are tracked. -/
def Gauged (f : Fleet) : Prop := f.metrics.active?.getD 0 = f.kernels.size

/-- A gauge that was never set is right as long as there are no kernels. -/
theorem gauged_empty (rules : FleetRules) (limit : Int) (supply : Supply) :
    (empty rules limit supply).Gauged := rfl

/-- Nothing is counted, and a gauge that was right is right again. -/
structure Regauged (f g : Fleet) : Prop where
  counters : ∃ active?, g.metrics = { f.metrics with active? }
  gauged : f.Gauged → g.Gauged

namespace Regauged

/-- Nothing is to be set where no kernel comes or goes. -/
theorem of_eq (hkernels : g.kernels = f.kernels) (hmetrics : g.metrics = f.metrics) :
    f.Regauged g where
  counters := ⟨f.metrics.active?, hmetrics⟩
  gauged h := by
    rw [Gauged, hkernels, hmetrics]
    exact h

theorem refl (f : Fleet) : f.Regauged f := of_eq rfl rfl

/-- What two operations leave right, one after the other, is right. -/
theorem trans (h : f.Regauged g) (h' : g.Regauged k) : f.Regauged k where
  counters := by
    obtain ⟨_, hg⟩ := h.counters
    obtain ⟨active?, hk⟩ := h'.counters
    exact ⟨active?, by rw [hk, hg]⟩
  gauged hf := h'.gauged (h.gauged hf)

theorem refused (h : f.Regauged g) (reason : Refusal) :
    g.metrics.refused reason = f.metrics.refused reason := by
  obtain ⟨active?, hmetrics⟩ := h.counters
  rw [hmetrics]
  cases reason <;> rfl

theorem recovered (h : f.Regauged g) : g.metrics.recovered = f.metrics.recovered := by
  obtain ⟨active?, hmetrics⟩ := h.counters
  rw [hmetrics]

theorem dropped (h : f.Regauged g) : g.metrics.dropped = f.metrics.dropped := by
  obtain ⟨active?, hmetrics⟩ := h.counters
  rw [hmetrics]

theorem culled (h : f.Regauged g) : g.metrics.culled = f.metrics.culled := by
  obtain ⟨active?, hmetrics⟩ := h.counters
  rw [hmetrics]

/-- Wherever a kernel comes or goes, the gauge is set anew. -/
theorem gauge (hmetrics : g.metrics = f.metrics) : f.Regauged g.gauge where
  counters := ⟨some g.kernels.size, by rw [Fleet.gauge, hmetrics]; rfl⟩
  gauged _ := rfl

theorem passes (h : Passes f g) : f.Regauged g := by
  obtain ⟨millis, rfl⟩ := h
  exact of_eq rfl rfl

theorem touch (f : Fleet) (id : String) : f.Regauged (f.touch id) := by
  cases hget : f.kernels.get? id with
  | none =>
    rw [touch_eq_self hget]
    exact refl f
  | some k =>
    have hmetrics : (f.touch id).metrics = f.metrics := by rw [touch_eq hget]
    refine ⟨⟨f.metrics.active?, hmetrics⟩, fun h => ?_⟩
    rw [Gauged, hmetrics, ← tracked_all, tracked_touch, tracked_all]
    exact h

/-- A takeover sets the gauge, and counts nothing: sessions that are recovered are counted by those
who ask for it. -/
theorem reattach {limit : Option Nat} {h : KernelHandle} {x : Result Unit}
    (hends : (Fleet.reattach limit h).Ends Passes f calls g x) : f.Regauged g := by
  have h₁ := ends_look_bind_iff.1 hends
  split at h₁
  · obtain ⟨-, rfl, -⟩ := ends_done_iff.1 h₁
    exact refl _
  · obtain ⟨f₁, reply, _, hpasses, -, -, h₂⟩ := ends_call_iff.1 h₁
    refine (passes hpasses).trans ?_
    rcases reply with _ | e | _
    · obtain ⟨-, rfl, -⟩ := ends_done_iff.1 h₂
      exact refl _
    · obtain ⟨-, rfl, -⟩ := ends_done_iff.1 h₂
      exact refl _
    · have h₃ := ends_step_iff.1 h₂
      obtain ⟨-, rfl, -⟩ := ends_done_iff.1 h₃
      exact gauge rfl

/-- The gauge is set when the kernel is taken away, and again if it is put back. -/
theorem shutdown {id : String} {x : Result KernelHandle}
    (hends : (Fleet.shutdown id).Ends Passes f calls g x) : f.Regauged g := by
  obtain ⟨f₁, begun, _, _, h₁, h₂, -⟩ := ends_bind_iff.1 hends
  obtain ⟨-, hbegin⟩ := ends_atOnce_iff.1 h₁
  cases hget : f.kernels.get? id with
  | none =>
    rw [beginShutdown_of_none hget] at hbegin
    cases hbegin
    obtain ⟨-, rfl, -⟩ := ends_done_iff.1 h₂
    exact refl _
  | some k =>
    rw [beginShutdown_of_some hget] at hbegin
    cases hbegin
    obtain ⟨f₂, answer, _, _, h₃, h₄, -⟩ := ends_bind_iff.1 h₂
    obtain ⟨hpasses, -⟩ := ends_await_iff.1 h₃
    obtain ⟨-, hsettle⟩ := ends_atOnce_iff.1 h₄
    have htaken := gauge (f := f) (g := { f with
      kernels := f.kernels.erase id
      ledger := f.ledger.release k.handle.user }) rfl
    refine (htaken.trans (passes hpasses)).trans ?_
    cases answer with
    | ok u =>
      cases hsettle
      exact refl _
    | error e =>
      cases hsettle
      exact gauge rfl

end Regauged

/-- What comes of a launch: it is refused for the rule that it breaks and the refusal is counted, or
it breaks none, and nothing is counted from there on. -/
theorem launch_cases {x : Result KernelHandle} (h : (create spec p).Ends Passes f calls g x) :
    (∃ reason, f.Refuses p reason ∧ g = f.refuse reason ∧ calls = [] ∧
      x = .error (f.refusalFault p reason)) ∨
    f.LetsPass p ∧ f.Regauged g ∧ g.reservations = f.reservations + 1 ∧
      (calls = [] → ∃ e, x = .error e ∧
        f.rules.portRange.reserve (f.supply.ports f.reservations) portsPerKernel = .error e) := by
  obtain ⟨f₁, admitted, _, _, h₁, h₂, rfl⟩ := ends_bind_iff.1 h
  obtain ⟨rfl, hbefore⟩ := ends_atOnce_iff.1 h₁
  obtain ⟨reason, hrefuses, hrefused⟩ | ⟨hpass, htries, hports⟩ := f.admitLaunch_cases spec p
  · rw [hrefused] at hbefore
    cases hbefore
    obtain ⟨rfl, rfl, rfl⟩ := ends_done_iff.1 h₂
    exact .inl ⟨reason, hrefuses, rfl, rfl, rfl⟩
  rw [hbefore] at htries hports
  have htried := Regauged.of_eq htries.kernels htries.metrics
  refine .inr ⟨hpass, ?_⟩
  cases admitted with
  | error e =>
    obtain ⟨rfl, rfl, rfl⟩ := ends_done_iff.1 h₂
    exact ⟨htried, htries.reservations, fun _ => ⟨e, rfl, hports e rfl⟩⟩
  | ok request =>
    obtain ⟨f₂, answer, _, _, h₃, h₄, rfl⟩ := ends_bind_iff.1 h₂
    obtain ⟨hpasses, rfl⟩ := ends_await_iff.1 h₃
    obtain ⟨rfl, hsettle⟩ := ends_atOnce_iff.1 h₄
    have hreservations : f₂.reservations = f.reservations + 1 := by
      obtain ⟨millis, rfl⟩ := hpasses
      exact htries.reservations
    refine ⟨(htried.trans (.passes hpasses)).trans ?_, ?_, nofun⟩
    all_goals cases answer <;> cases hsettle
    · exact .of_eq rfl rfl
    · exact .gauge rfl
    · exact hreservations
    · exact hreservations

/-- A launch breaks a rule exactly if it fails as a refusal does, before the launcher is asked. -/
theorem refuses_iff_of_ends {x : Result KernelHandle}
    (h : (create spec p).Ends Passes f calls g x) :
    f.Refuses p reason ↔ calls = [] ∧ x = .error (f.refusalFault p reason) := by
  obtain ⟨reason', hrefuses, -, hcalls, hx⟩ | ⟨hpass, -, -, hports⟩ := launch_cases h
  · constructor
    · intro hreason
      rw [refuses_unique hreason hrefuses]
      exact ⟨hcalls, hx⟩
    · rintro ⟨-, hreason⟩
      rw [hx] at hreason
      rw [f.refusalFault_injective p (Except.error.inj hreason.symm)]
      exact hrefuses
  · constructor
    · intro hreason
      exact absurd hreason (not_refuses_of_letsPass hpass reason)
    · rintro ⟨hcalls, rfl⟩
      obtain ⟨e, he, hreserve⟩ := hports hcalls
      -- No reservation fails with the fault of a refusal.
      obtain ⟨cause, rfl⟩ | ⟨cause, rfl⟩ := PortRange.fault_of_reserve hreserve
      all_goals cases reason <;> cases he

end Fleet

end KernelGate
