import KernelGate.Proofs.Fleet.Figures
import KernelGate.Proofs.Fleet.Uses
import Mathlib.Order.Interval.Finset.Nat

/-!
# Hosts in turn

A launch that policy and limits let pass and for which ports can be reserved is given the next host
of the list, whether the launcher then succeeds or not. A launch that is refused before that, and
all else that can be asked of a fleet, leaves the list where it is.

Main statements: `takesHost_of_ends` (what a launch does), `keeps_turn_of_reattach` and
`keeps_turn_of_shutdown` (what else is asked), `perm_range_of_window` (launches that follow one
another run on all hosts).
-/

namespace KernelGate

namespace Fleet

open Activity

variable {f g : Fleet} {spec : KernelSpec} {p : LaunchParams} {calls : Calls}

/-- Policy and limits let a launch pass, and ports can be reserved for it. -/
structure LetsThrough (f : Fleet) (p : LaunchParams) : Prop extends f.LetsPass p where
  reserved : ∃ ports,
    f.rules.portRange.reserve (f.supply.ports f.reservations) portsPerKernel = .ok ports

instance (policy : Policy) (user : String) : Decidable (policy.Denies user) :=
  inferInstanceAs (Decidable (_ ∨ _))

instance (f : Fleet) (p : LaunchParams) : Decidable (f.LetsPass p) :=
  decidable_of_iff (¬ f.rules.policy.Denies (f.userOf p) ∧
      (∀ max ∈ f.rules.maxKernels?, f.kernels.size < max) ∧
      (f.ledger.limit < 0 ∨ (f.ledger.active (f.userOf p) : Int) < f.ledger.limit))
    ⟨fun h => ⟨h.1, h.2.1, h.2.2⟩, fun h => ⟨h.notDenied, h.notFull, h.slot⟩⟩

theorem letsThrough_iff : f.LetsThrough p ↔ f.LetsPass p ∧
    (f.rules.portRange.reserve (f.supply.ports f.reservations) portsPerKernel).isOk = true := by
  constructor
  · rintro ⟨hpass, ports, hports⟩
    exact ⟨hpass, by rw [hports]; rfl⟩
  · rintro ⟨hpass, hok⟩
    cases hports : f.rules.portRange.reserve (f.supply.ports f.reservations) portsPerKernel with
    | error e =>
      rw [hports] at hok
      cases hok
    | ok ports => exact ⟨hpass, ports, hports⟩

instance (f : Fleet) (p : LaunchParams) : Decidable (f.LetsThrough p) :=
  decidable_of_iff _ letsThrough_iff.symm

/-- The place in the list of hosts at which the next launch runs. -/
def place (f : Fleet) : Nat := f.hostsUsed % f.rules.hosts.length

/-- Without hosts to choose from, kernels run where the gateway does. -/
theorem nextHost_of_nil (h : f.rules.hosts = []) : f.nextHost = "localhost" := by
  rw [nextHost_eq, hostAt, h]
  rfl

/-- The next host stands at the next place of the list. -/
theorem getElem?_place (h : f.rules.hosts ≠ []) :
    f.rules.hosts[f.place]? = some f.nextHost := by
  have hlt : f.place < f.rules.hosts.length := Nat.mod_lt _ (List.length_pos_of_ne_nil h)
  rw [nextHost_eq, hostAt, ← place, List.getElem?_eq_getElem hlt]
  rfl

/-! ## A launch

A host is looked up and used up in one step, after everything that can refuse a launch and before
the launcher is asked. So launches that are refused leave the list where it is, and all others move
it on by one. -/

/-- What a launch asks of the launcher, and what it does to the list of hosts. -/
inductive TakesHost (f : Fleet) (p : LaunchParams) : Calls → Fleet → Prop where
  | refused {g : Fleet} : ¬ f.LetsThrough p → g.rules = f.rules → g.hostsUsed = f.hostsUsed →
      TakesHost f p [] g
  | taken {g : Fleet} {request : LaunchRequest} {answer : Result Unit} : f.LetsThrough p →
      request.handle.host = f.nextHost → g.rules = f.rules →
      (f.rules.hosts ≠ [] → g.hostsUsed = f.hostsUsed + 1) →
      TakesHost f p [(.launch request, some answer)] g

/-- A launch does not change the list itself. -/
theorem TakesHost.rules (h : f.TakesHost p calls g) : g.rules = f.rules := by
  cases h with
  | refused _ hrules _ => exact hrules
  | taken _ _ hrules _ => exact hrules

/-- A launch that is refused leaves the list of hosts, since it is looked at last. -/
theorem hosts_of_refused {e : Fault} (h : f.admitLaunch spec p = (g, .error e)) :
    g.rules = f.rules ∧ g.hostsUsed = f.hostsUsed := by
  simp only [admitLaunch] at h
  split at h
  · cases h
    exact ⟨rfl, rfl⟩
  · split at h
    · cases h
      exact ⟨rfl, rfl⟩
    · split at h
      · cases h
        exact ⟨rfl, rfl⟩
      · split at h
        · cases h
          exact ⟨rfl, rfl⟩
        · cases h

/-- Whatever refuses a launch comes before a host is looked up. -/
theorem not_letsThrough_of_refused {e : Fault} (h : f.admitLaunch spec p = (g, .error e)) :
    ¬ f.LetsThrough p := by
  rintro ⟨hpass, ports, hports⟩
  obtain ⟨reason, hrefuses, -⟩ | ⟨-, -, hfailed⟩ := f.admitLaunch_cases spec p
  · exact not_refuses_of_letsPass hpass reason hrefuses
  · rw [hfailed e (by rw [h])] at hports
    cases hports

/-- A launch that is given a host has passed all checks. -/
theorem letsThrough_of_admitLaunch {request : LaunchRequest}
    (h : f.admitLaunch spec p = (g, .ok request)) : f.LetsThrough p := by
  obtain ⟨ports, -, -, -, hports, -⟩ := admitLaunch_ok h
  obtain ⟨reason, -, hrefused⟩ | ⟨hpass, -⟩ := f.admitLaunch_cases spec p
  · rw [hrefused] at h
    cases h
  · exact ⟨hpass, ports, hports⟩

/-- So a launch takes the next host if it is let through, and none if it is not. -/
theorem takesHost_of_ends {x : Result KernelHandle} (h : (create spec p).Ends Passes f calls g x) :
    f.TakesHost p calls g := by
  obtain ⟨f₁, admitted, _, _, h₁, h₂, rfl⟩ := ends_bind_iff.1 h
  obtain ⟨rfl, hadmit⟩ := ends_atOnce_iff.1 h₁
  cases admitted with
  | error e =>
    obtain ⟨rfl, rfl, rfl⟩ := ends_done_iff.1 h₂
    obtain ⟨hrules, hused⟩ := hosts_of_refused hadmit
    exact .refused (not_letsThrough_of_refused hadmit) hrules hused
  | ok request =>
    have hthrough := letsThrough_of_admitLaunch hadmit
    obtain ⟨ports, -, -, -, -, hprepare⟩ := admitLaunch_ok hadmit
    cases hprepare
    obtain ⟨f₂, answer, _, _, h₃, h₄, rfl⟩ := ends_bind_iff.1 h₂
    obtain ⟨⟨millis, rfl⟩, rfl⟩ := ends_await_iff.1 h₃
    obtain ⟨rfl, hsettle⟩ := ends_atOnce_iff.1 h₄
    have hused (hne : f.rules.hosts ≠ []) :
        (if f.rules.hosts.isEmpty then f.hostsUsed else f.hostsUsed + 1) = f.hostsUsed + 1 :=
      if_neg (by simpa using hne)
    cases answer with
    | error e =>
      cases hsettle
      exact .taken hthrough rfl rfl hused
    | ok _ =>
      cases hsettle
      exact .taken hthrough rfl rfl hused

/-! ## What else is asked

Nothing but launches has to do with hosts. -/

/-- The list of hosts is where it was. -/
structure SameTurn (f g : Fleet) : Prop where
  rules : g.rules = f.rules
  hostsUsed : g.hostsUsed = f.hostsUsed

theorem SameTurn.refl (f : Fleet) : f.SameTurn f := ⟨rfl, rfl⟩

theorem SameTurn.touch (h : f.SameTurn g) (id : String) : f.SameTurn (g.touch id) := by
  unfold Fleet.touch
  split <;> exact ⟨h.rules, h.hostsUsed⟩

/-- Clients who ask for kernels leave the list where it is. -/
theorem SameTurn.stirs {k : Fleet} {seen : List Use} (h : f.SameTurn g) (hstirs : g.Stirs seen k) :
    f.SameTurn k := by
  induction hstirs with
  | still => exact h
  | passes millis _ ih => exact ⟨ih.rules, ih.hostsUsed⟩
  | touched id _ ih => exact ih.touch id

theorem keeps_turn_of_shutdown (f : Fleet) (id : String) :
    (shutdown id).Keeps Stirred fun _ g => f.SameTurn g := by
  apply keeps_shutdown_of
  · intro waits g hg
    unfold beginShutdown
    split <;> exact ⟨hg.rules, hg.hostsUsed⟩
  · intro before g m g' k answer hg hstirred
    exact hg.stirs hstirred.1
  · intro waits g k answer hg
    cases answer with
    | error e | ok _ => exact ⟨hg.rules, hg.hostsUsed⟩

theorem keeps_turn_of_reattach (f : Fleet) (limit : Option Nat) (kernel : KernelHandle) :
    (reattach limit kernel).Keeps Stirred fun _ g => f.SameTurn g := by
  intro before waits g g' x hg h
  have h₂ := unfolds_look_bind_iff.1 h
  split at h₂
  · obtain ⟨-, rfl, -⟩ := unfolds_done_iff.1 h₂
    exact hg
  · obtain ⟨g₂, m, reply, rest, hstirred, -, -, h₃⟩ := unfolds_call_iff.1 h₂
    have hg₂ := hg.stirs hstirred.1
    rcases reply with _ | e | _
    · obtain ⟨-, rfl, -⟩ := unfolds_done_iff.1 h₃
      exact hg₂
    · obtain ⟨-, rfl, -⟩ := unfolds_done_iff.1 h₃
      exact hg₂
    · have h₄ := unfolds_step_iff.1 h₃
      obtain ⟨-, rfl, -⟩ := unfolds_done_iff.1 h₄
      exact ⟨hg₂.rules, hg₂.hostsUsed⟩

end Fleet

/-! ## All hosts in turn

The hosts that were used so far have gone round the list. A stretch of as many launches as there are
hosts begins somewhere in it and goes round once. -/

/-- A stretch of the numbers from zero up counts on from where it begins. -/
theorem window_of_range {before window after : List Nat} {total : Nat}
    (h : List.range total = before ++ window ++ after) :
    window = List.range' before.length window.length := by
  rw [List.range_eq_range'] at h
  obtain ⟨upTo, -, hupTo, -⟩ := List.range'_eq_append_iff.1 h
  obtain ⟨start, -, rfl, rfl⟩ := List.range'_eq_append_iff.1 hupTo.symm
  simp

/-- Where counting goes round, numbers that follow one another fall on each place once. -/
theorem perm_range_of_window {before window after : List Nat} {total : Nat}
    (h : List.range total = before ++ window ++ after) :
    (window.map (· % window.length)).Perm (List.range window.length) := by
  have hwindow : (Multiset.Ico before.length (before.length + window.length)) = window := by
    show ((List.range' before.length (before.length + window.length - before.length) : List Nat) :
      Multiset Nat) = window
    rw [Nat.add_sub_cancel_left, ← window_of_range h]
  have hround := Nat.multiset_Ico_map_mod before.length window.length
  rw [hwindow] at hround
  exact Multiset.coe_eq_coe.1 hround

end KernelGate
