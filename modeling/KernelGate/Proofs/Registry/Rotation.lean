import KernelGate.Proofs.Fleet.Neighbours
import KernelGate.Proofs.Fleet.Rotation
import KernelGate.Proofs.Registry.Figures
import KernelGate.Proofs.Registry.Uses

/-!
# Strict rotation of hosts

Launches among any other operations, one at a time, each with what the fleet was like that it came
to and what it asked of the launcher. Of those that get through to the launcher, the first one runs
on the first host of the list, the next one on the next host, and so on round the list. Whether the
launcher succeeds makes no difference, and a launch that is refused uses no host.

Main statements: `InRotation` is what a run keeps; `hosts_of_took`.
-/

namespace KernelGate

namespace Registry

open Activity

/-- A launch of a run. -/
structure Launch where
  /-- The fleet that it came to. -/
  fleet : Fleet
  params : LaunchParams
  calls : Calls

namespace Launch

/-- The launch gets past the policy, both limits and the reservation of ports. -/
def through (l : Launch) : Bool := decide (l.fleet.LetsThrough l.params)

/-- The launcher is asked once, for a kernel on this host, whatever it answers. -/
def RunsOn (l : Launch) (host : String) : Prop :=
  ∃ request answer, l.calls = [(.launch request, some answer)] ∧ request.handle.host = host

end Launch

variable {S : Type} [SessionStore S] {r r' start : Registry S} {calls : Calls}
  {launches : List Launch} {rules : FleetRules}

/-- The launch that an operation comes to, with what it finds and asks. -/
def Operation.launched (op : Operation) (r : Registry S) (calls : Calls) : List Launch :=
  op.launch?.toList.map fun l => ⟨r.fleet, l.2, calls⟩

/-- What a registry comes to by one operation after another and as time goes on, whatever the
launcher answers and the store does, and the launches among the operations. -/
inductive Took (start : Registry S) : List Launch → Registry S → Prop where
  | start : Took start [] start
  | passes {launches : List Launch} {r r' : Registry S} :
      Took start launches r → Passes r r' → Took start launches r'
  | does {launches : List Launch} {r r' : Registry S} {op : Operation} {calls : Calls}
      {x : Result Unit} : Took start launches r → op.activity.Ends Passes r calls r' x →
      Took start (launches ++ op.launched r calls) r'

/-! ## One operation

Every operation either is a launch, with one fleet operation behind it that takes a host, or has
nothing to do with hosts. -/

/-- Whether the launch is one with a record or without makes no difference to the hosts. -/
theorem takesHost_of_launch {op : Operation} {spec : KernelSpec} {p : LaunchParams}
    {x : Result Unit} (hop : op.launch? = some (spec, p))
    (h : op.activity.Ends Passes r calls r' x) : r.fleet.TakesHost p calls r'.fleet := by
  cases op with
  | create spec' p' =>
    cases hop
    obtain ⟨g, hg, rfl⟩ := ends_onFleet h
    obtain ⟨y, hy, -⟩ := ends_success hg
    exact Fleet.takesHost_of_ends hy
  | startKernel spec' p' =>
    cases hop
    obtain ⟨y, hy, -⟩ := ends_success h
    obtain ⟨z, hz, -⟩ := fleet_of_startKernel hy
    exact Fleet.takesHost_of_ends hz
  | _ => cases hop

/-- What is no launch leaves the list of hosts where it is. -/
theorem sameTurn_of_ends {op : Operation} {x : Result Unit} (hop : op.launch? = none)
    (h : op.activity.Ends Passes r calls r' x) : r.fleet.SameTurn r'.fleet := by
  by_cases htouch : ∃ id, op = .touch id
  · obtain ⟨id, rfl⟩ := htouch
    obtain ⟨g, hg, rfl⟩ := ends_onFleet h
    obtain ⟨y, hy, -⟩ := ends_sure hg
    obtain ⟨-, rfl⟩ := ends_change_iff.1 hy
    exact (Fleet.SameTurn.refl r.fleet).touch id
  · obtain ⟨waits, hunfolds, -⟩ := exists_unfolds_of_ends exists_timed_of_passes h
    have hkeeps : (op.activity (S := S)).Keeps (Along Fleet.Stirred)
        fun _ r' => r.fleet.SameTurn r'.fleet := by
      refine Operation.keeps (fun _ hg => ⟨hg.rules, hg.hostsUsed⟩) (fun spec p hlaunch => ?_)
        (Fleet.keeps_turn_of_reattach _) (Fleet.keeps_turn_of_shutdown _)
        fun id heq => htouch ⟨id, heq⟩
      rw [hop] at hlaunch
      cases hlaunch
    exact hkeeps [] _ _ _ _ (.refl _) (hunfolds.mono stirred_of_timed)

/-! ## A run

A launch that gets through finds the number of hosts used that were used before, so that these
numbers count up from zero along the launches that get through. -/

/-- What a launch asks of the launcher. -/
structure Launch.Asks (l : Launch) (rules : FleetRules) : Prop where
  rules_eq : l.fleet.rules = rules
  refused : l.through = false → l.calls = []
  taken : l.through = true → l.RunsOn l.fleet.nextHost

/-- The launches that got through found the hosts used that were used by those before them. -/
structure InRotation (rules : FleetRules) (launches : List Launch) (f : Fleet) : Prop where
  rules_eq : f.rules = rules
  asks : ∀ l ∈ launches, l.Asks rules
  numbers : rules.hosts ≠ [] →
    (launches.filter (·.through)).map (·.fleet.hostsUsed) = List.range f.hostsUsed

theorem inRotation_empty (rules : FleetRules) (limit : Int) (supply : Supply) :
    InRotation rules [] (.empty rules limit supply) :=
  ⟨rfl, nofun, fun _ => rfl⟩

/-- Operations without a launch may come between. -/
theorem InRotation.sameTurn {f g : Fleet} (h : InRotation rules launches f) (hg : f.SameTurn g) :
    InRotation rules launches g where
  rules_eq := hg.rules.trans h.rules_eq
  asks := h.asks
  numbers hne := by rw [h.numbers hne, hg.hostsUsed]

/-- A launch that gets through is the next in the count; one that is refused does not count. -/
theorem InRotation.takesHost {f g : Fleet} {p : LaunchParams} (h : InRotation rules launches f)
    (htakes : f.TakesHost p calls g) : InRotation rules (launches ++ [⟨f, p, calls⟩]) g := by
  refine ⟨htakes.rules.trans h.rules_eq, List.forall_mem_append.2 ⟨h.asks, ?asks⟩,
    fun hne => ?numbers⟩
  case asks =>
    refine List.forall_mem_singleton.2 ⟨h.rules_eq, fun hrefused => ?_, fun hthrough => ?_⟩
    · cases htakes with
      | refused => rfl
      | taken hlets => exact absurd hlets (of_decide_eq_false hrefused)
    · cases htakes with
      | refused hnot => exact absurd (of_decide_eq_true hthrough) hnot
      | taken _ hhost => exact ⟨_, _, rfl, hhost⟩
  case numbers =>
    rw [List.filter_append, List.map_append, h.numbers hne]
    cases htakes with
    | refused hnot _ hused =>
      have hnone : Launch.through ⟨f, p, []⟩ = false := decide_eq_false hnot
      rw [List.filter_cons_of_neg (by simp [hnone]), hused]
      exact List.append_nil _
    | taken hlets _ _ hused =>
      have hsome (calls : Calls) : Launch.through ⟨f, p, calls⟩ = true := decide_eq_true hlets
      rw [List.filter_cons_of_pos (hsome _), hused (by rwa [h.rules_eq]), List.range_succ]
      rfl

/-- After any run the launches that got through have used the hosts in rotation. -/
theorem inRotation_of_took {limit : Int} {supply : Supply} {store : S} {recoveryLimit : Nat}
    (h : Took (new (.empty rules limit supply) store recoveryLimit) launches r) :
    InRotation rules launches r.fleet := by
  induction h with
  | start => exact inRotation_empty rules limit supply
  | passes _ hpasses ih =>
    obtain ⟨millis, rfl⟩ := hpasses
    exact ih.sameTurn ⟨rfl, rfl⟩
  | @does launches r r' op calls x _ hends ih =>
    cases hop : op.launch? with
    | none =>
      rw [Operation.launched, hop, Option.toList_none, List.map_nil, List.append_nil]
      exact ih.sameTurn (sameTurn_of_ends hop hends)
    | some l =>
      rw [Operation.launched, hop]
      exact ih.takesHost (takesHost_of_launch hop hends)

/-! ## Round the list

With the number of a launch its place in the list is known. So launches that follow one another, as
many as there are hosts, take up every place. -/

namespace InRotation

variable {f : Fleet} {l : Launch}

theorem runs (h : InRotation rules launches f) (hl : l ∈ launches.filter (·.through)) :
    l.fleet.rules = rules ∧ l.RunsOn l.fleet.nextHost := by
  obtain ⟨hmem, hthrough⟩ := List.mem_filter.1 hl
  have hasks := h.asks l hmem
  exact ⟨hasks.rules_eq, hasks.taken hthrough⟩

/-- The launch with this number has found as many hosts used. -/
theorem number (h : InRotation rules launches f) (hne : rules.hosts ≠ []) {i : Nat}
    (hl : (launches.filter (·.through))[i]? = some l) : l.fleet.hostsUsed = i := by
  have hnumber : ((launches.filter (·.through)).map (·.fleet.hostsUsed))[i]? =
      some l.fleet.hostsUsed := by
    rw [List.getElem?_map, hl]
    rfl
  rw [h.numbers hne] at hnumber
  obtain ⟨hlt, hnumber⟩ := List.getElem?_eq_some_iff.1 hnumber
  rw [List.getElem_range] at hnumber
  exact hnumber.symm

/-- The places of a stretch are its numbers, taken round the list. -/
theorem places (h : InRotation rules launches f) {before window after : List Launch}
    (hsplit : launches.filter (·.through) = before ++ window ++ after) :
    window.map (·.fleet.place) =
      (window.map (·.fleet.hostsUsed)).map (· % rules.hosts.length) := by
  rw [List.map_map]
  refine List.map_congr_left fun l hl => ?_
  have hmem : l ∈ launches.filter (·.through) := by
    rw [hsplit]
    exact List.mem_append_left _ (List.mem_append_right _ hl)
  rw [Fleet.place, (h.runs hmem).1]
  rfl

end InRotation

/-- Of the launches that get through, counted from zero, each runs on the host at its number, round
the list; so those that follow one another, as many as there are hosts, run on all places of the
list. Without hosts kernels run where the gateway does. A launch that does not get through asks for
nothing, and is not counted. -/
theorem hosts_of_took {limit : Int} {supply : Supply} {store : S} {recoveryLimit : Nat}
    (h : Took (new (.empty rules limit supply) store recoveryLimit) launches r) :
    (∀ l ∈ launches, l.through = false → l.calls = []) ∧
    (∀ (i : Nat) l, (launches.filter (·.through))[i]? = some l →
      (rules.hosts = [] → l.RunsOn "localhost") ∧
      (rules.hosts ≠ [] → l.fleet.place = i % rules.hosts.length ∧
        ∃ host, rules.hosts[i % rules.hosts.length]? = some host ∧ l.RunsOn host)) ∧
    ∀ before window after, launches.filter (·.through) = before ++ window ++ after →
      window.length = rules.hosts.length →
      (window.map (·.fleet.place)).Perm (List.range rules.hosts.length) := by
  have hrotation := inRotation_of_took h
  refine ⟨fun l hl => (hrotation.asks l hl).refused, fun i l hl => ⟨?nil, ?hosts⟩, ?window⟩
  case nil =>
    obtain ⟨hrules, hruns⟩ := hrotation.runs (List.mem_of_getElem? hl)
    intro hnil
    rwa [Fleet.nextHost_of_nil (by rwa [hrules])] at hruns
  case hosts =>
    obtain ⟨hrules, hruns⟩ := hrotation.runs (List.mem_of_getElem? hl)
    intro hne
    have hplace : l.fleet.place = i % rules.hosts.length := by
      rw [Fleet.place, hrules, hrotation.number hne hl]
    have hhost : l.fleet.rules.hosts[l.fleet.place]? = _ := Fleet.getElem?_place (by rwa [hrules])
    rw [hrules, hplace] at hhost
    exact ⟨hplace, _, hhost, hruns⟩
  case window =>
    intro before window after hsplit hlength
    by_cases hne : rules.hosts = []
    · rw [hne, List.length_nil] at hlength ⊢
      rw [List.eq_nil_of_length_eq_zero hlength]
      exact .refl _
    · have hnumbers := hrotation.numbers hne
      rw [hsplit, List.map_append, List.map_append] at hnumbers
      have hround := perm_range_of_window hnumbers.symm
      rwa [List.length_map, hlength, ← hrotation.places hsplit] at hround

/-! ### Two hosts -/

/-- The registry after these operations, each answered so, and for each launch among them whether it
got through. -/
def performed (r : Registry S) : List (Operation × Result Unit) → Registry S × List Bool
  | [] => (r, [])
  | (op, answer) :: rest =>
    let later := performed (op.activity.run (answering answer) () r).2.1 rest
    (later.1, (op.launch?.toList.map fun l => decide (r.fleet.LetsThrough l.2)) ++ later.2)

/-- Operations that are carried out against a launcher make a run, with the launches among them. -/
theorem exists_took_performed (h : Took start launches r) (ops : List (Operation × Result Unit)) :
    ∃ more, Took start (launches ++ more) (r.performed ops).1 ∧
      more.map (·.through) = (r.performed ops).2 := by
  induction ops generalizing r launches with
  | nil =>
    refine ⟨[], ?_, rfl⟩
    rwa [List.append_nil]
  | cons op rest ih =>
    obtain ⟨op, answer⟩ := op
    obtain ⟨calls, hends⟩ := ends_answering answer op r
    obtain ⟨more, hmore, hthrough⟩ := ih (h.does hends)
    refine ⟨op.launched r calls ++ more, ?_, ?_⟩
    · rwa [← List.append_assoc]
    · rw [List.map_append, hthrough, Operation.launched, List.map_map]
      rfl

/-- Bob is served, and refused a second kernel; alice's cannot be launched; bob's is ended, and he
is served again. -/
def wholeDay : List (Operation × Result Unit) :=
  [(.startKernel .python (.forUser "bob"), .ok ()), (.startKernel .python (.forUser "bob"), .ok ()),
    (.create .python (.forUser "alice"), .error (.io (.other "cannot launch"))),
    (.shutdownKernel "a", .ok ()), (.startKernel .python (.forUser "bob"), .ok ())]

/-- A registry with two hosts, where everybody may have one kernel. -/
def spread : Registry MemoryStore := new (.empty Fleet.twoHosts 1 Fleet.plainSupply) ∅ 1000

theorem hosts_on_wholeDay : ∃ (a b c d : Launch) (r : Registry MemoryStore),
    Took spread [a, b, c, d] r ∧ a.RunsOn "left" ∧ b.calls = [] ∧ c.RunsOn "right" ∧
      d.RunsOn "left" ∧ [c.fleet.place, d.fleet.place].Perm [0, 1] := by
  have hstart : Took spread [] spread := .start
  obtain ⟨launches, htook, hthrough⟩ := exists_took_performed hstart wholeDay
  rw [List.nil_append] at htook
  have hday : launches.map (·.through) = [true, false, true, true] :=
    hthrough.trans (by decide +kernel)
  obtain ⟨a, _, rfl, ha, hday⟩ := List.map_eq_cons_iff.1 hday
  obtain ⟨b, _, rfl, hb, hday⟩ := List.map_eq_cons_iff.1 hday
  obtain ⟨c, _, rfl, hc, hday⟩ := List.map_eq_cons_iff.1 hday
  obtain ⟨d, _, rfl, hd, hday⟩ := List.map_eq_cons_iff.1 hday
  obtain rfl := List.map_eq_nil_iff.1 hday
  have hfilter : [a, b, c, d].filter (·.through) = [a, c, d] := by simp [ha, hb, hc, hd]
  obtain ⟨hrefused, hhosts, hwindow⟩ := hosts_of_took htook
  rw [hfilter] at hhosts hwindow
  obtain ⟨-, _, ⟨⟩, hleft⟩ := (hhosts 0 a rfl).2 nofun
  obtain ⟨-, _, ⟨⟩, hright⟩ := (hhosts 1 c rfl).2 nofun
  obtain ⟨-, _, ⟨⟩, hagain⟩ := (hhosts 2 d rfl).2 nofun
  exact ⟨a, b, c, d, _, htook, hleft, hrefused b (by simp) hb, hright, hagain,
    hwindow [a] [c, d] [] rfl rfl⟩

end Registry

end KernelGate
