import KernelGate.Proofs.Activity.History
import KernelGate.Proofs.Fleet.Conservation

/-!
# Names of kernels

A supply numbers the names it gives, and gives none twice. So a launch that is let through has a
name that nobody else has, neither a kernel that is tracked nor one that another call is about.

Main statements: `becomes_of_admitLaunch` and the lemmas beside it say what the steps of launches
and shutdowns do to a fleet; `Traffic.Named` is what such steps keep of the names, and
`Named.free_of_admitted` what it is good for.
-/

namespace KernelGate

namespace Fleet

/-! ## Steps of launches and shutdowns

The steps of an operation, seen as changes of the kernels, the ledger and the counter of names,
which is all that matters below. -/

/-- A launch that is let through takes a slot and the next name. -/
theorem becomes_of_admitLaunch {f g : Fleet} {spec : KernelSpec} {p : LaunchParams}
    {request : LaunchRequest} (h : f.admitLaunch spec p = (g, .ok request)) :
    f.Becomes f.kernels (f.ledger.restore request.handle.user) g ∧ g.supply = f.supply ∧
      g.named = f.named + 1 ∧ request.handle.id = f.supply.kernelId f.named := by
  obtain ⟨ports, -, -, -, -, hprepare⟩ := admitLaunch_ok h
  cases hprepare
  exact ⟨⟨rfl, rfl, rfl⟩, rfl, rfl, rfl⟩

/-- A shutdown that begins lets go of the kernel and its slot, and uses up no name. -/
theorem becomes_of_beginShutdown {f g : Fleet} {id : String} {k : Tracked}
    (h : f.beginShutdown id = (g, .ok k)) :
    f.kernels.get? id = some k ∧
      f.Becomes (f.kernels.erase id) (f.ledger.release k.handle.user) g ∧
      g.supply = f.supply ∧ g.named = f.named := by
  cases hget : f.kernels.get? id with
  | none =>
    rw [beginShutdown_of_none hget] at h
    cases h
  | some k' =>
    rw [beginShutdown_of_some hget] at h
    cases h
    exact ⟨rfl, ⟨rfl, rfl, rfl⟩, rfl, rfl⟩

theorem eq_of_beginShutdown_error {f g : Fleet} {id : String} {e : Fault}
    (h : f.beginShutdown id = (g, .error e)) : g = f := by
  cases hget : f.kernels.get? id with
  | none =>
    rw [beginShutdown_of_none hget] at h
    cases h
    rfl
  | some k =>
    rw [beginShutdown_of_some hget] at h
    cases h

/-- A launch that succeeds files its kernel under the name that it was given; the slot it has
already. -/
theorem becomes_of_settleLaunch {f g : Fleet} {request : LaunchRequest} {k : KernelHandle}
    {answer : Result Unit} (h : f.settleLaunch request answer = (g, .ok k)) :
    answer = .ok () ∧ k = request.handle ∧ g.supply = f.supply ∧ g.named = f.named ∧
      f.Becomes (f.kernels.insert request.handle.id ⟨request.handle, f.now⟩) f.ledger g := by
  cases answer with
  | error e => cases h
  | ok _ =>
    cases h
    exact ⟨rfl, rfl, rfl, rfl, rfl, rfl, rfl⟩

/-- A launch that fails leaves the kernels as they are. -/
theorem becomes_of_settleLaunch_error {f g : Fleet} {request : LaunchRequest} {e : Fault}
    {answer : Result Unit} (h : f.settleLaunch request answer = (g, .error e)) :
    answer = .error e ∧ g.supply = f.supply ∧ g.named = f.named ∧ g.kernels = f.kernels := by
  cases answer with
  | error e' =>
    cases h
    exact ⟨rfl, rfl, rfl, rfl⟩
  | ok _ => cases h

/-- A shutdown that fails puts its kernel back under its own id. -/
theorem becomes_of_settleShutdown_error {f g : Fleet} {k : Tracked} {e : Fault}
    {answer : Result Unit} (h : f.settleShutdown k answer = (g, .error e)) :
    g.supply = f.supply ∧ g.named = f.named ∧ g.kernels = f.kernels.insert k.handle.id k := by
  cases answer with
  | error e' =>
    cases h
    exact ⟨rfl, rfl, rfl⟩
  | ok _ => cases h

theorem eq_of_settleShutdown {f g : Fleet} {k : Tracked} {h : KernelHandle}
    {answer : Result Unit} (hok : f.settleShutdown k answer = (g, .ok h)) : g = f := by
  cases answer with
  | error e => cases hok
  | ok _ =>
    cases hok
    rfl

/-! ## Names that were given

The counter of names is the only thing that tells names which were given from those which are still
to be. So what is kept is that no kernel and no call has a name from the counter on. -/

/-- The names of this fleet come from a supply, so far as it is a matter of this run. -/
structure Traffic.Named (supply : Supply) (log : History) (t : Traffic) : Prop where
  supplied : t.fleet.supply = supply
  /-- Names that are still to be given are not in use. -/
  unused : ∀ n, t.fleet.named ≤ n → t.fleet.kernels.get? (supply.kernelId n) = none ∧
    ∀ s ∈ t.stages, s.id ≠ supply.kernelId n
  /-- What was or is being launched has its name from the supply. -/
  launched : ∀ id, log.Launched id → ∃ n, id = supply.kernelId n
  launching : ∀ request, .launching request ∈ t.stages →
    ∃ n, request.handle.id = supply.kernelId n

namespace Traffic.Named

variable {supply : Supply} {log log' : History} {f g : Fleet} {stages rest : List Stage}

theorem perm {stages' : List Stage} (h : Named supply log ⟨f, stages⟩)
    (hperm : stages.Perm stages') : Named supply log ⟨f, stages'⟩ where
  supplied := h.supplied
  unused := by
    intro n hn
    obtain ⟨hget, hstages⟩ := h.unused n hn
    exact ⟨hget, fun s hs => hstages s (hperm.mem_iff.2 hs)⟩
  launched := h.launched
  launching := fun request hmem => h.launching request (hperm.mem_iff.2 hmem)

theorem congr (h : Named supply log ⟨f, stages⟩) (hkernels : g.kernels = f.kernels)
    (hsupply : g.supply = f.supply) (hnamed : g.named = f.named) :
    Named supply log ⟨g, stages⟩ where
  supplied := hsupply.trans h.supplied
  unused := by
    intro n hn
    show g.kernels.get? _ = none ∧ _
    rw [hkernels]
    exact h.unused n (hnamed ▸ hn)
  launched := h.launched
  launching := h.launching

/-- The name of a launch that is let through was not in use. -/
theorem free_of_admitted (h : Named supply log ⟨f, stages⟩) {spec : KernelSpec} {p : LaunchParams}
    {request : LaunchRequest} (hadmission : f.admitLaunch spec p = (g, .ok request)) :
    f.kernels.get? request.handle.id = none ∧ ∀ s ∈ stages, s.id ≠ request.handle.id := by
  obtain ⟨-, -, -, hid⟩ := becomes_of_admitLaunch hadmission
  have hsupply : f.supply = supply := h.supplied
  rw [hid, hsupply]
  exact h.unused f.named (Nat.le_refl _)

/-- The launch that got the next name waits with it, and the counter is past it. -/
theorem admitted (h : Named supply log ⟨f, stages⟩)
    (hinjective : Function.Injective supply.kernelId) {spec : KernelSpec} {p : LaunchParams}
    {request : LaunchRequest} (hadmission : f.admitLaunch spec p = (g, .ok request)) :
    Named supply log ⟨g, .launching request :: stages⟩ := by
  obtain ⟨hg, hsupply, hnamed, hid⟩ := becomes_of_admitLaunch hadmission
  have hsupplied : f.supply = supply := h.supplied
  rw [hsupplied] at hid
  refine ⟨hsupply.trans h.supplied, ?unused, h.launched, ?launching⟩
  case unused =>
    intro n hn
    have hlater : f.named < n := by
      have hle : g.named ≤ n := hn
      omega
    obtain ⟨hget, hstages⟩ := h.unused n (Nat.le_of_lt hlater)
    show g.kernels.get? _ = none ∧ _
    rw [hg.kernels]
    refine ⟨hget, fun s hs => ?_⟩
    rcases List.mem_cons.1 hs with rfl | hs
    · intro heq
      have hsame : f.named = n := hinjective (hid.symm.trans heq)
      omega
    · exact hstages s hs
  case launching =>
    intro request' hmem
    rcases List.mem_cons.1 hmem with heq | hmem
    · cases heq
      exact ⟨f.named, hid⟩
    · exact h.launching request' hmem

/-- A kernel that is to be ended had its name before. -/
theorem taken (h : Named supply log ⟨f, stages⟩) {id : String} {k : Tracked}
    (hkeyed : f.Keyed) (hbegin : f.beginShutdown id = (g, .ok k)) :
    Named supply log ⟨g, .ending k :: stages⟩ := by
  obtain ⟨hget, hg, hsupply, hnamed⟩ := becomes_of_beginShutdown hbegin
  refine ⟨hsupply.trans h.supplied, ?unused, h.launched, ?launching⟩
  case unused =>
    intro n hn
    obtain ⟨hfree, hstages⟩ := h.unused n (hnamed ▸ hn)
    have hne : supply.kernelId n ≠ id := by
      rintro rfl
      exact absurd (hfree.symm.trans hget) nofun
    show g.kernels.get? _ = none ∧ _
    rw [hg.kernels, Dict.get?_erase_of_ne _ hne]
    refine ⟨hfree, fun s hs => ?_⟩
    rcases List.mem_cons.1 hs with rfl | hs
    · have hid : k.handle.id = id := hkeyed id k hget
      exact fun heq => hne (heq.symm.trans hid)
    · exact hstages s hs
  case launching =>
    intro request hmem
    rcases List.mem_cons.1 hmem with heq | hmem
    · cases heq
    · exact h.launching request hmem

/-- A call is over; no kernel has come to be tracked but, maybe, the one it was about. -/
theorem settled {s : Stage} (h : Named supply log ⟨f, s :: rest⟩) (hsupply : g.supply = f.supply)
    (hnamed : g.named = f.named)
    (hfree : ∀ id, f.kernels.get? id = none → id ≠ s.id → g.kernels.get? id = none)
    (hlog : ∀ id, log'.Launched id →
      log.Launched id ∨ ∃ request, s = .launching request ∧ request.handle.id = id) :
    Named supply log' ⟨g, rest⟩ where
  supplied := hsupply.trans h.supplied
  unused := by
    intro n hn
    obtain ⟨hget, hstages⟩ := h.unused n (hnamed ▸ hn)
    exact ⟨hfree _ hget (Ne.symm (hstages s List.mem_cons_self)),
      fun s' hs' => hstages s' (List.mem_cons_of_mem _ hs')⟩
  launched := by
    intro id hid
    rcases hlog id hid with hid | ⟨request, rfl, rfl⟩
    · exact h.launched id hid
    · exact h.launching request List.mem_cons_self
  launching := fun request hmem => h.launching request (List.mem_cons_of_mem _ hmem)

end Traffic.Named

end Fleet

end KernelGate
