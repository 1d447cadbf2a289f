import KernelGate.Proofs.Fleet.Calls
import KernelGate.Proofs.Fleet.Traffic
import KernelGate.Text.Decimal
import Mathlib.Tactic.Tauto

/-!
# What a launch comes to

A launch that runs alone passes the policy, the limit of the gateway, the limit of its user and the
reservation of ports, in that order, before the launcher is asked. `Outcome` lists the six ways in
which it can end, each with what leads to it, and these exclude one another.

Hosts are used in turn, and names are never used again; so both depend on what was launched before.

Main statements: `outcome_of_ends` (a launch ends in one of the six ways), `Routine.of_served` (what
is known of a fleet after any operations one at a time), `outcome_of_served`.
-/

namespace KernelGate

/-- The policy does not let a user start kernels. -/
def Policy.Denies (policy : Policy) (user : String) : Prop :=
  user ∈ policy.denied.keys ∨ policy.allowed ≠ ∅ ∧ user ∉ policy.allowed.keys

/-- The policy as it is evaluated is the policy as it is stated. -/
theorem Policy.admits_iff_not_denies {policy : Policy} {user : String} :
    policy.admits user = true ↔ ¬policy.Denies user := by
  rw [admits_iff, Denies]
  tauto

namespace Fleet

open Activity

variable {start f g : Fleet} {spec : KernelSpec} {p : LaunchParams} {request : LaunchRequest}
  {log calls : Calls} {rules : FleetRules} {limit : Int} {supply : Supply}

/-- How many launches a launcher has been asked for. -/
def launches (log : Calls) : Nat := log.countP fun e => e.1.kind = .launch

theorem launches_append (log calls : Calls) :
    launches (log ++ calls) = launches log + launches calls :=
  List.countP_append

/-- Hosts in turn; without any, kernels run where the gateway does. -/
def hostAt (hosts : List String) (n : Nat) : String := (hosts[n % hosts.length]?).getD "localhost"

/-- The host of a launch is settled by how many launches used one before. -/
theorem nextHost_eq (f : Fleet) : f.nextHost = hostAt f.rules.hosts f.hostsUsed := by
  unfold nextHost hostAt
  split
  · next hnone => rw [List.eq_nil_of_length_eq_zero hnone]; rfl
  · next hsome =>
    rw [List.getElem?_eq_getElem (Nat.mod_lt _ (Nat.pos_of_ne_zero hsome))]
    rfl

/-! ## The ways in which a launch ends

Each way carries what led to it, so that no two of them can be those of one launch; where the
launcher is not asked, the fleet is left `Unmoved`. A launch that fails has used up a name and a
host all the same. -/

/-- Nothing is asked of the launcher, and no name or host is used up. -/
structure Unmoved (f g : Fleet) : Prop extends f.SameApart g where
  named : g.named = f.named
  hostsUsed : g.hostsUsed = f.hostsUsed

/-- One name and one host are used up. -/
structure Moved (f g : Fleet) : Prop where
  named : g.named = f.named + 1
  hostsUsed : f.rules.hosts ≠ [] → g.hostsUsed = f.hostsUsed + 1

/-- Policy and limits let a launch pass. -/
structure LetsPass (f : Fleet) (p : LaunchParams) : Prop where
  notDenied : ¬f.rules.policy.Denies (f.userOf p)
  notFull : ∀ max, f.rules.maxKernels? = some max → f.kernels.size < max
  slot : f.ledger.limit < 0 ∨ (f.ledger.active (f.userOf p) : Int) < f.ledger.limit

/-- What the launcher is asked by a launch, after all that it was asked before. -/
structure Asks (log : Calls) (f : Fleet) (spec : KernelSpec) (p : LaunchParams)
    (request : LaunchRequest) : Prop where
  user : request.handle.user = f.userOf p
  name : request.handle.name = spec.name
  id : request.handle.id = f.supply.kernelId f.named
  /-- The id is new: no kernel has it, and the launcher was never asked about it. -/
  untracked : f.kernels.get? request.handle.id = none
  fresh : ∀ e ∈ log, e.1.handle.id ≠ request.handle.id
  host : request.handle.host = hostAt f.rules.hosts (launches log)
  ports : f.rules.portRange.reserve (f.supply.ports f.reservations) portsPerKernel =
    .ok request.handle.ports
  five : request.handle.ports.length = 5
  spec : request.spec = spec
  env : request.env = p.env.overlay (f.rules.told request.handle)

/-- One kernel more, and one slot more for its user. -/
structure Gains (f : Fleet) (kernel : KernelHandle) (g : Fleet) : Prop where
  rules : g.rules = f.rules
  supply : g.supply = f.supply
  limit : g.ledger.limit = f.ledger.limit
  tracked : g.get? kernel.id = some kernel
  others : ∀ id, id ≠ kernel.id → g.kernels.get? id = f.kernels.get? id
  size : g.kernels.size = f.kernels.size + 1
  slot : g.ledger.active kernel.user = f.ledger.active kernel.user + 1
  users : ∀ user, user ≠ kernel.user → g.ledger.counts.get? user = f.ledger.counts.get? user

/-- The ways in which a launch can end, with what the launcher is asked and what is answered. -/
inductive Outcome (log : Calls) (f : Fleet) (spec : KernelSpec) (p : LaunchParams) :
    Calls → Fleet → Result KernelHandle → Prop where
  | unauthorized {g : Fleet} : f.rules.policy.Denies (f.userOf p) → f.Unmoved g →
      Outcome log f spec p [] g (.error (.unauthorized (f.userOf p)))
  | gatewayFull {g : Fleet} {max : Nat} : ¬f.rules.policy.Denies (f.userOf p) →
      f.rules.maxKernels? = some max → max ≤ f.kernels.size → f.Unmoved g →
      Outcome log f spec p [] g (.error (.quotaExceeded (.gatewayFull max)))
  | userFull {g : Fleet} : ¬f.rules.policy.Denies (f.userOf p) →
      (∀ max, f.rules.maxKernels? = some max → f.kernels.size < max) →
      0 ≤ f.ledger.limit → f.ledger.limit ≤ f.ledger.active (f.userOf p) → f.Unmoved g →
      Outcome log f spec p [] g (.error (.quotaExceeded (.userFull (f.userOf p) f.ledger.limit)))
  | unreserved {g : Fleet} {e : Fault} : f.LetsPass p →
      f.rules.portRange.reserve (f.supply.ports f.reservations) portsPerKernel = .error e →
      f.Unmoved g → Outcome log f spec p [] g (.error e)
  | failed {g : Fleet} {request : LaunchRequest} {e : Fault} : f.LetsPass p →
      Asks log f spec p request → f.SameApart g → f.Moved g →
      Outcome log f spec p [(.launch request, some (.error e))] g (.error e)
  | launched {g : Fleet} {request : LaunchRequest} : f.LetsPass p →
      Asks log f spec p request → f.Gains request.handle g → f.Moved g →
      Outcome log f spec p [(.launch request, some (.ok ()))] g (.ok request.handle)

/-- A launch that fails changes nothing, and no kernel has been launched by it. -/
theorem Outcome.of_error {e : Fault} (h : Outcome log f spec p calls g (.error e)) :
    f.SameApart g ∧ ∀ request, (LauncherCall.launch request, some (.ok ())) ∉ calls := by
  cases h with
  | unauthorized _ hg => exact ⟨hg.toSameApart, nofun⟩
  | gatewayFull _ _ _ hg => exact ⟨hg.toSameApart, nofun⟩
  | userFull _ _ _ _ hg => exact ⟨hg.toSameApart, nofun⟩
  | unreserved _ _ hg => exact ⟨hg.toSameApart, nofun⟩
  | failed _ _ hsame _ => exact ⟨hsame, by simp⟩

/-- A kernel that is launched was not there before. -/
theorem Outcome.untracked {k : KernelHandle} (h : Outcome log f spec p calls g (.ok k)) :
    f.kernels.get? k.id = none := by
  cases h with
  | launched _ hasks _ _ => exact hasks.untracked

/-! ## A slot for each kernel, and none besides

Where operations do not overlap, no launch is under way when one begins. So the count of a user is
that of the user's kernels and nothing more, and every operation that tracks a kernel or lets go of
one moves both together. -/

/-- Kernels are filed under their ids, and each user's count is that of the user's kernels. -/
structure Balanced (f : Fleet) : Prop where
  keyed : f.Keyed
  tidy : f.ledger.Tidy
  counted : ∀ user, f.ledger.active user = f.tracked (ownedBy user)

/-- A balanced fleet has a slot to give back for each of its kernels. -/
theorem Balanced.covered (h : f.Balanced) : f.Covered where
  keyed := h.keyed
  tidy := h.tidy
  covered user := Nat.le_of_eq (h.counted user).symm

theorem Balanced.congr (h : f.Balanced) (hkernels : g.kernels = f.kernels)
    (hledger : g.ledger = f.ledger) : g.Balanced where
  keyed := h.keyed.congr hkernels
  tidy := by
    rw [hledger]
    exact h.tidy
  counted user := by
    rw [hledger, tracked_congr hkernels]
    exact h.counted user

/-- A kernel that was not tracked comes with a slot for its user. -/
theorem Balanced.insert (h : f.Balanced) {k : Tracked}
    (hnew : f.kernels.get? k.handle.id = none)
    (hkernels : g.kernels = f.kernels.insert k.handle.id k)
    (hledger : g.ledger = f.ledger.restore k.handle.user) : g.Balanced where
  keyed := h.keyed.insert hkernels
  tidy := by
    rw [hledger]
    exact h.tidy.restore _
  counted user := by
    rw [hledger, active_restore_owner, tracked_of_insert hkernels hnew, h.counted]

/-- A kernel goes with the slot of its user. -/
theorem Balanced.erase (h : f.Balanced) {id : String} {k : Tracked}
    (hget : f.kernels.get? id = some k) (hkernels : g.kernels = f.kernels.erase id)
    (hledger : g.ledger = f.ledger.release k.handle.user) : g.Balanced where
  keyed := h.keyed.erase hkernels
  tidy := by
    rw [hledger]
    exact h.tidy.release _
  counted user := by
    have hless := tracked_of_erase hkernels hget (ownedBy user)
    rw [hledger, active_release_owner, h.counted]
    omega

theorem Balanced.touch (h : f.Balanced) (id : String) : (f.touch id).Balanced where
  keyed := h.keyed.touch id
  tidy := by
    rw [ledger_touch]
    exact h.tidy
  counted user := by
    rw [tracked_touch, ledger_touch]
    exact h.counted user

/-- A launch that succeeds adds both a kernel and a slot, and any other adds neither. It must be of
a kernel that is new, since one that is tracked would be replaced and counted twice. -/
theorem Created.balanced {x : Result KernelHandle} (h : Created f g x) (hf : f.Balanced)
    (hnew : ∀ k, x = .ok k → f.kernels.get? k.id = none) : g.Balanced := by
  cases h with
  | refused hsame => exact hf.congr hsame.kernels hsame.ledger
  | launched hkernels hledger => exact hf.insert (hnew _ rfl) hkernels hledger

/-- A takeover replaces no kernel, since one that is tracked already is left as it is. -/
theorem Reattached.balanced {k : KernelHandle} {x : Result Unit} (h : Reattached f k g x)
    (hf : f.Balanced) : g.Balanced := by
  cases h with
  | lost hsame => exact hf.congr hsame.kernels hsame.ledger
  | known _ => exact hf
  | @found _ now hnew hkernels hledger =>
    have hnone : f.kernels.get? k.id = none := by simpa [Dict.contains] using hnew
    exact hf.insert (k := ⟨k, now⟩) hnone hkernels hledger

/-- An attempt that fails brings back the kernel, and the slot with it. -/
theorem Ended.balanced {id : String} {x : Result KernelHandle} (h : Ended f id g x)
    (hf : f.Balanced) : g.Balanced := by
  cases h with
  | kept hsame => exact hf.congr hsame.kernels hsame.ledger
  | ended hget hkernels hledger => exact hf.erase hget hkernels hledger

/-! ## A fleet that is used by one at a time

Names and hosts go by counters, which only ever go up. So a name that is still to be given is in
nobody's hands, and the launcher has never heard it. -/

/-- What is known of a fleet after operations one at a time, in which the launcher was asked
this. -/
structure Routine (rules : FleetRules) (limit : Int) (supply : Supply) (log : Calls) (f : Fleet) :
    Prop where
  balanced : f.Balanced
  rules_eq : f.rules = rules
  limit_eq : f.ledger.limit = limit
  supply_eq : f.supply = supply
  /-- Names that are still to be given have not been used. -/
  untracked : ∀ n, f.named ≤ n → f.kernels.get? (supply.kernelId n) = none
  fresh : ∀ n, f.named ≤ n → ∀ e ∈ log, e.1.handle.id ≠ supply.kernelId n
  /-- Each launch that the launcher was asked for has used a host. -/
  hosts : rules.hosts ≠ [] → f.hostsUsed = launches log

theorem routine_empty (rules : FleetRules) (limit : Int) (supply : Supply) :
    Routine rules limit supply [] (.empty rules limit supply) where
  balanced := ⟨keyed_empty rules limit supply, Ledger.tidy_empty limit, fun _ => rfl⟩
  rules_eq := rfl
  limit_eq := rfl
  supply_eq := rfl
  untracked _ _ := rfl
  fresh _ _ := List.forall_mem_nil _
  hosts _ := rfl

/-! ## Launches

A launch is followed through the checks that come before the launcher is asked. The order of the
checks is that of the six ways: the check that refuses has those before it passed. -/

/-- A refusal has one of four reasons. That the ledger is tidy is needed for the last of these: a
slot that was taken for nothing is given back without a trace. -/
theorem outcome_of_refused {e : Fault} (htidy : f.ledger.Tidy)
    (h : f.admitLaunch spec p = (g, .error e)) : Outcome log f spec p [] g (.error e) := by
  simp only [admitLaunch] at h
  split at h
  · next hpolicy =>
    cases h
    have hdenied : f.rules.policy.Denies (f.userOf p) := by
      rw [Bool.not_eq_true', ← Bool.not_eq_true, Policy.admits_iff_not_denies, not_not] at hpolicy
      exact hpolicy
    exact .unauthorized hdenied ⟨⟨rfl, rfl, rfl, rfl⟩, rfl, rfl⟩
  · next hpolicy =>
    have hnotDenied : ¬f.rules.policy.Denies (f.userOf p) := by
      rw [Bool.not_eq_true', Bool.not_eq_false, Policy.admits_iff_not_denies] at hpolicy
      exact hpolicy
    split at h
    · next hfull =>
      cases h
      unfold isFull at hfull
      cases hmax : f.rules.maxKernels? with
      | none => simp [hmax] at hfull
      | some max =>
        rw [hmax] at hfull
        exact .gatewayFull hnotDenied hmax (by simpa using hfull) ⟨⟨rfl, rfl, rfl, rfl⟩, rfl, rfl⟩
    · next hroom =>
      have hnotFull : ∀ max, f.rules.maxKernels? = some max → f.kernels.size < max := by
        intro max hmax
        simpa [isFull, hmax] using hroom
      split at h
      · next hslot =>
        cases h
        obtain ⟨hnonneg, hle⟩ := Ledger.acquire?_eq_none_iff.1 hslot
        exact .userFull hnotDenied hnotFull hnonneg hle ⟨⟨rfl, rfl, rfl, rfl⟩, rfl, rfl⟩
      · next ledger hslot =>
        have hfree : f.ledger.limit < 0 ∨
            (f.ledger.active (f.userOf p) : Int) < f.ledger.limit := by
          have hne : f.ledger.acquire? (f.userOf p) ≠ none := by simp [hslot]
          rw [ne_eq, Ledger.acquire?_eq_none_iff] at hne
          omega
        split at h
        · next hports =>
          cases h
          -- The slot was taken before the ports were tried, and is given back.
          rw [Ledger.eq_restore_of_acquire? hslot, Ledger.release_restore htidy]
          exact .unreserved ⟨hnotDenied, hnotFull, hfree⟩ hports ⟨⟨rfl, rfl, rfl, rfl⟩, rfl, rfl⟩
        · cases h

/-- What is known of a launch that is let through. -/
theorem asks_of_admitLaunch (hf : Routine rules limit supply log f)
    (h : f.admitLaunch spec p = (g, .ok request)) :
    f.LetsPass p ∧ Asks log f spec p request := by
  obtain ⟨ports, hpolicy, hroom, hslot, hports, hprepare⟩ := admitLaunch_ok h
  have hgrants := grants_of_admitLaunch h
  have hlength : ports.length = 5 := by
    unfold PortRange.reserve at hports
    split at hports
    · cases hports
    · exact PortRange.length_reserveFrom (Nat.zero_le _) hports
  -- Hosts are used in turn, so that the count of launches tells which one it is.
  have hhost : f.nextHost = hostAt f.rules.hosts (launches log) := by
    rw [nextHost_eq]
    by_cases hhosts : f.rules.hosts = []
    · simp [hostAt, hhosts]
    · rw [hf.hosts (by rwa [← hf.rules_eq])]
  have hid := hf.untracked f.named (Nat.le_refl _)
  have hfresh := hf.fresh f.named (Nat.le_refl _)
  rw [← hf.supply_eq] at hid hfresh
  cases hprepare
  refine ⟨⟨Policy.admits_iff_not_denies.1 hpolicy, ?notFull, ?slot⟩, ?asks⟩
  case notFull =>
    intro max hmax
    simpa [isFull, hmax] using hroom
  case slot =>
    simp only [Ledger.isFull, Bool.and_eq_false_iff, decide_eq_false_iff_not] at hslot
    omega
  case asks => exact ⟨rfl, rfl, rfl, hid, hfresh, hhost, hports, hlength, rfl, hgrants.env⟩

/-- Every launch ends in one of these ways. -/
theorem outcome_of_ends {x : Result KernelHandle} (hf : Routine rules limit supply log f)
    (h : (create spec p).Ends Passes f calls g x) : Outcome log f spec p calls g x := by
  have htidy := hf.balanced.tidy
  obtain ⟨f₁, admitted, _, _, h₁, h₂, rfl⟩ := ends_bind_iff.1 h
  obtain ⟨rfl, hadmit⟩ := ends_atOnce_iff.1 h₁
  cases admitted with
  | error e =>
    obtain ⟨rfl, rfl, rfl⟩ := ends_done_iff.1 h₂
    exact outcome_of_refused htidy hadmit
  | ok request =>
    obtain ⟨hpasses, hasks⟩ := asks_of_admitLaunch hf hadmit
    obtain ⟨_, -, -, -, -, hprepare⟩ := admitLaunch_ok hadmit
    cases hprepare
    have hhosts : f.rules.hosts ≠ [] →
        (if f.rules.hosts.isEmpty then f.hostsUsed else f.hostsUsed + 1) = f.hostsUsed + 1 := by
      intro hne
      rw [if_neg (by simpa using hne)]
    obtain ⟨f₂, answer, _, _, h₃, h₄, rfl⟩ := ends_bind_iff.1 h₂
    obtain ⟨⟨millis, rfl⟩, rfl⟩ := ends_await_iff.1 h₃
    obtain ⟨rfl, hsettle⟩ := ends_atOnce_iff.1 h₄
    cases answer with
    | error e =>
      cases hsettle
      exact .failed hpasses hasks ⟨rfl, rfl, rfl, Ledger.release_restore htidy _⟩ ⟨rfl, hhosts⟩
    | ok u =>
      cases hsettle
      refine .launched hpasses hasks ⟨rfl, rfl, rfl, ?tracked, ?others, ?size, ?slot, ?users⟩
        ⟨rfl, hhosts⟩
      case tracked => simp [get?, track, gauge]
      case others => exact fun id hne => Dict.get?_insert_of_ne _ _ hne
      case size =>
        rw [← tracked_all, ← tracked_all]
        exact tracked_of_insert (k := ⟨_, _⟩) rfl hasks.untracked fun _ => true
      case slot => exact (Ledger.active_restore ..).trans (by simp)
      case users =>
        intro user hne
        exact (Ledger.get?_restore ..).trans (if_neg hne)

/-! ## Operations one at a time

What is known of a fleet is kept by each operation. Each lemma says how much further the counters
are, and what the launcher was asked about. -/

/-- A kernel that is taken over does not have a name that is still to be given. -/
def Operation.Known (f : Fleet) : Operation → Prop
  | .reattach _ h => ∀ n, f.named ≤ n → h.id ≠ f.supply.kernelId n
  | _ => True

/-- What can become of a fleet by operations one at a time, whatever the launcher answers, and what
it was asked and answered meanwhile. -/
inductive Served (start : Fleet) : Calls → Fleet → Prop where
  | start : Served start [] start
  | passes {log : Calls} {f : Fleet} (millis : Nat) :
      Served start log f → Served start log (f.later millis)
  | touches {log : Calls} {f : Fleet} (id : String) :
      Served start log f → Served start log (f.touch id)
  | does {log calls : Calls} {f g : Fleet} {op : Operation} : Served start log f → op.Known f →
      op.activity.Ends Passes f calls g () → Served start (log ++ calls) g

namespace Routine

theorem go_on (h : Routine rules limit supply log f) (hbalanced : g.Balanced)
    (hrules : g.rules = f.rules) (hlimit : g.ledger.limit = f.ledger.limit)
    (hsupply : g.supply = f.supply) (hnamed : f.named ≤ g.named)
    (huntracked : ∀ n, g.named ≤ n → g.kernels.get? (supply.kernelId n) = none)
    (hfresh : ∀ n, g.named ≤ n → ∀ e ∈ calls, e.1.handle.id ≠ supply.kernelId n)
    (hhosts : f.rules.hosts ≠ [] → g.hostsUsed = f.hostsUsed + launches calls) :
    Routine rules limit supply (log ++ calls) g where
  balanced := hbalanced
  rules_eq := hrules.trans h.rules_eq
  limit_eq := hlimit.trans h.limit_eq
  supply_eq := hsupply.trans h.supply_eq
  untracked := huntracked
  fresh n hn e he := by
    rcases List.mem_append.1 he with he | he
    · exact h.fresh n (Nat.le_trans hnamed hn) e he
    · exact hfresh n hn e he
  hosts hne := by rw [hhosts (by rwa [h.rules_eq]), h.hosts hne, launches_append]

/-- Nothing has happened but that kernels are the same by other figures. -/
theorem same (h : Routine rules limit supply log f) (hkernels : ∀ id,
    (g.kernels.get? id = none ↔ f.kernels.get? id = none)) (hbalanced : g.Balanced)
    (hrules : g.rules = f.rules) (hledger : g.ledger = f.ledger) (hsupply : g.supply = f.supply)
    (hnamed : g.named = f.named) (hhosts : g.hostsUsed = f.hostsUsed) :
    Routine rules limit supply log g where
  balanced := hbalanced
  rules_eq := hrules.trans h.rules_eq
  limit_eq := (congrArg Ledger.limit hledger).trans h.limit_eq
  supply_eq := hsupply.trans h.supply_eq
  untracked n hn := (hkernels _).2 (h.untracked n (hnamed ▸ hn))
  fresh n hn := h.fresh n (hnamed ▸ hn)
  hosts hne := hhosts.trans (h.hosts hne)

theorem later (h : Routine rules limit supply log f) (millis : Nat) :
    Routine rules limit supply log (f.later millis) :=
  h.same (fun _ => Iff.rfl) (h.balanced.congr rfl rfl) rfl rfl rfl rfl rfl

theorem touch (h : Routine rules limit supply log f) (id : String) :
    Routine rules limit supply log (f.touch id) := by
  have hbalanced := h.balanced.touch id
  cases hget : f.kernels.get? id with
  | none => rwa [touch_eq_self hget]
  | some k =>
    rw [touch_eq hget] at hbalanced ⊢
    refine h.same (fun other => ?_) hbalanced rfl rfl rfl rfl rfl
    by_cases hother : other = id
    · simp [hother, hget]
    · rw [Dict.get?_insert_of_ne _ _ hother]

/-- A launch uses the next name, which no kernel has yet. -/
theorem create {x : Result KernelHandle} (hf : Routine rules limit supply log f)
    (hinjective : Function.Injective supply.kernelId)
    (h : (create spec p).Ends Passes f calls g x) :
    Routine rules limit supply (log ++ calls) g := by
  have houtcome := outcome_of_ends hf h
  have hbalanced := (created_of_ends hf.balanced.tidy h).balanced hf.balanced fun k hk =>
    (hk ▸ houtcome).untracked
  have hunmoved (hg : f.Unmoved g) : Routine rules limit supply (log ++ []) g := by
    rw [List.append_nil]
    exact hf.same (fun id => by rw [hg.kernels]) hbalanced hg.rules hg.ledger hg.supply hg.named
      hg.hostsUsed
  -- The name that was used is none of those that are still to be given.
  have hused {request : LaunchRequest} (hasks : Asks log f spec p request) (hmoved : f.Moved g)
      (n : Nat) (hn : g.named ≤ n) : request.handle.id ≠ supply.kernelId n := by
    rw [hasks.id, hf.supply_eq]
    intro heq
    have hsame := hinjective heq
    have hnamed := hmoved.named
    omega
  have hlater (hmoved : f.Moved g) {n : Nat} (hn : g.named ≤ n) : f.named ≤ n := by
    have hnamed := hmoved.named
    omega
  cases houtcome with
  | unauthorized _ hg => exact hunmoved hg
  | gatewayFull _ _ _ hg => exact hunmoved hg
  | userFull _ _ _ _ hg => exact hunmoved hg
  | unreserved _ _ hg => exact hunmoved hg
  | @failed _ request e _ hasks hsame hmoved =>
    refine hf.go_on hbalanced hsame.rules (congrArg _ hsame.ledger) hsame.supply
      (by have := hmoved.named; omega) (fun n hn => ?_) (fun n hn => ?_) hmoved.hostsUsed
    · rw [hsame.kernels]
      exact hf.untracked n (hlater hmoved hn)
    · exact List.forall_mem_singleton.2 (hused hasks hmoved n hn)
  | @launched _ request _ hasks hgains hmoved =>
    refine hf.go_on hbalanced hgains.rules hgains.limit hgains.supply
      (by have := hmoved.named; omega) (fun n hn => ?_) (fun n hn => ?_) hmoved.hostsUsed
    · rw [hgains.others _ (hused hasks hmoved n hn).symm]
      exact hf.untracked n (hlater hmoved hn)
    · exact List.forall_mem_singleton.2 (hused hasks hmoved n hn)

/-- A takeover uses no name, but may be of a kernel that has one; it must not be one that is still
to be given. -/
theorem reattach {within : Option Nat} {kernel : KernelHandle} {x : Result Unit}
    (hf : Routine rules limit supply log f)
    (hknown : ∀ n, f.named ≤ n → kernel.id ≠ f.supply.kernelId n)
    (h : (reattach within kernel).Ends Passes f calls g x) :
    Routine rules limit supply (log ++ calls) g := by
  have hbalanced := (reattached_of_ends h).balanced hf.balanced
  have hprobe (reply : Reply) (n : Nat) (hn : f.named ≤ n) :
      ∀ e ∈ [(LauncherCall.probe kernel, reply)], e.1.handle.id ≠ supply.kernelId n := by
    refine List.forall_mem_singleton.2 ?_
    rw [← hf.supply_eq]
    exact hknown n hn
  have h₂ := ends_look_bind_iff.1 h
  split at h₂
  · obtain ⟨rfl, rfl, rfl⟩ := ends_done_iff.1 h₂
    rwa [List.append_nil]
  · obtain ⟨_, reply, _, ⟨millis, rfl⟩, -, rfl, h₃⟩ := ends_call_iff.1 h₂
    rcases reply with _ | e | _
    · obtain ⟨rfl, rfl, rfl⟩ := ends_done_iff.1 h₃
      exact hf.go_on hbalanced rfl rfl rfl (Nat.le_refl _) hf.untracked (hprobe _) fun _ => rfl
    · obtain ⟨rfl, rfl, rfl⟩ := ends_done_iff.1 h₃
      exact hf.go_on hbalanced rfl rfl rfl (Nat.le_refl _) hf.untracked (hprobe _) fun _ => rfl
    · have h₄ := ends_step_iff.1 h₃
      obtain ⟨rfl, rfl, rfl⟩ := ends_done_iff.1 h₄
      refine hf.go_on hbalanced rfl rfl rfl (Nat.le_refl _) (fun n hn => ?_) (hprobe _) fun _ => rfl
      have hne := hknown n hn
      rw [hf.supply_eq] at hne
      exact (Dict.get?_insert_of_ne _ _ hne.symm).trans (hf.untracked n hn)

/-- Ending a kernel uses neither names nor hosts. -/
theorem shutdown {id : String} {x : Result KernelHandle} (hf : Routine rules limit supply log f)
    (h : (shutdown id).Ends Passes f calls g x) : Routine rules limit supply (log ++ calls) g := by
  have hbalanced := (ended_of_ends hf.balanced.covered h).balanced hf.balanced
  obtain ⟨f₁, begun, _, _, h₁, h₂, rfl⟩ := ends_bind_iff.1 h
  obtain ⟨rfl, hbegin⟩ := ends_atOnce_iff.1 h₁
  cases hget : f.kernels.get? id with
  | none =>
    rw [beginShutdown_of_none hget] at hbegin
    cases hbegin
    obtain ⟨rfl, rfl, rfl⟩ := ends_done_iff.1 h₂
    rwa [List.append_nil, List.append_nil]
  | some k =>
    have hid : k.handle.id = id := hf.balanced.keyed id k hget
    -- A kernel that is tracked does not have a name that is still to be given.
    have hne (n : Nat) (hn : f.named ≤ n) : id ≠ supply.kernelId n := by
      rintro rfl
      exact absurd ((hf.untracked n hn).symm.trans hget) nofun
    have hterminate (reply : Reply) (n : Nat) (hn : f.named ≤ n) :
        ∀ e ∈ [(LauncherCall.terminate k.handle, reply)], e.1.handle.id ≠ supply.kernelId n := by
      refine List.forall_mem_singleton.2 ?_
      exact hid.symm ▸ hne n hn
    have herased (n : Nat) (hn : f.named ≤ n) :
        (f.kernels.erase id).get? (supply.kernelId n) = none :=
      (Dict.get?_erase_of_ne _ (hne n hn).symm).trans (hf.untracked n hn)
    rw [beginShutdown_of_some hget] at hbegin
    cases hbegin
    obtain ⟨f₂, answer, _, _, h₃, h₄, rfl⟩ := ends_bind_iff.1 h₂
    obtain ⟨⟨millis, rfl⟩, rfl⟩ := ends_await_iff.1 h₃
    obtain ⟨rfl, hsettle⟩ := ends_atOnce_iff.1 h₄
    cases answer with
    | ok u =>
      cases hsettle
      exact hf.go_on hbalanced rfl (Ledger.limit_release ..) rfl (Nat.le_refl _) herased
        (hterminate _) fun _ => rfl
    | error e =>
      cases hsettle
      refine hf.go_on hbalanced rfl (Ledger.limit_release ..) rfl (Nat.le_refl _)
        (fun n hn => ?_) (hterminate _) fun _ => rfl
      refine (Dict.get?_insert_of_ne _ _ ?_).trans (herased n hn)
      rw [hid]
      exact (hne n hn).symm

/-- Whatever is asked of a new fleet, one at a time. -/
theorem of_served (hinjective : Function.Injective supply.kernelId)
    (h : Served (.empty rules limit supply) log f) : Routine rules limit supply log f := by
  induction h with
  | start => exact routine_empty rules limit supply
  | passes millis _ ih => exact ih.later millis
  | touches id _ ih => exact ih.touch id
  | @does log calls f g op _ hknown hends ih =>
    cases op with
    | create spec p =>
      obtain ⟨x, hends, -⟩ := ends_map_iff.1 hends
      exact ih.create hinjective hends
    | reattach within kernel =>
      obtain ⟨x, hends, -⟩ := ends_map_iff.1 hends
      exact ih.reattach hknown hends
    | shutdown id =>
      obtain ⟨x, hends, -⟩ := ends_map_iff.1 hends
      exact ih.shutdown hends

end Routine

/-- Every launch on a fleet that is used by one at a time comes to an end, whatever the launcher is,
and ends in one of the six ways. -/
theorem outcome_of_served (hinjective : Function.Injective supply.kernelId)
    (h : Served (.empty rules limit supply) log f) (spec : KernelSpec) (p : LaunchParams) :
    (f.rules = rules ∧ f.ledger.limit = limit ∧ f.supply = supply) ∧
      (∀ {calls g x}, (create spec p).Ends Passes f calls g x →
        Outcome log f spec p calls g x) ∧
      ∀ {ω : Type} (answer : ω → LauncherCall → Option Nat → ω × Reply),
        (∀ w c limit, (answer w c limit).2.Possible limit) → ∀ w,
          ∃ calls g x, (create spec p).Ends Passes f calls g x ∧ Follows answer w calls := by
  have hf := Routine.of_served hinjective h
  refine ⟨⟨hf.rules_eq, hf.limit_eq, hf.supply_eq⟩, outcome_of_ends hf, ?_⟩
  intro ω answer hanswer w
  exact exists_ends_of_follows answer (fun s => ⟨0, rfl⟩) hanswer (Fleet.create spec p) w f

/-- Names that are numbers, and ports that can all be bound. -/
def numbered : Supply := { plainSupply with kernelId n := String.ofList (Text.digits n) }

theorem numbered_injective : Function.Injective numbered.kernelId := by
  intro m n h
  have hdigits := congrArg Text.digits? (String.ofList_injective h)
  rw [Text.digits?_digits, Text.digits?_digits] at hdigits
  exact Option.some.inj hdigits

/-- An id that is no number is none of these names. -/
theorem ne_numbered {id : String} {c : Char} (hc : c ∈ id.toList) (hdigit : c.isDigit = false)
    (n : Nat) : id ≠ numbered.kernelId n := by
  rintro rfl
  have hmem : c ∈ Text.digits n := by simpa [numbered] using hc
  exact absurd (Text.isDigit_of_mem_digits n c hmem) (by simp [hdigit])

/-- The fleet after a takeover of a kernel that is found alive. -/
def takenOver (f : Fleet) (kernel : KernelHandle) : Fleet := (f.later 0).adopt kernel

theorem ends_takenOver {kernel : KernelHandle} (hnew : f.kernels.contains kernel.id = false) :
    (Operation.reattach none kernel).activity.Ends Passes f [(.probe kernel, some (.ok ()))]
      (f.takenOver kernel) () := by
  refine ends_map_iff.2 ⟨.ok (), ends_look_bind_iff.2 ?_, rfl⟩
  rw [if_neg (by simp [hnew])]
  exact .call ⟨0, rfl⟩ (Reply.possible_some _ _) (.step (.done _ _))

/-- A kernel of bob's from an earlier run. -/
def remnant (id : String) : KernelHandle := ⟨id, "python3", "bob", "localhost", []⟩

/-- Bob may have one kernel, and has two: limits are nothing to kernels that are taken over. -/
def crowded : Fleet :=
  ((empty (openRules none) 1 numbered).takenOver (remnant "a")).takenOver (remnant "b")

/-- Taking kernels over brings a user above the limit. -/
theorem served_crowded :
    ∃ log, Served (empty (openRules none) 1 numbered) log crowded := by
  have hknown (f : Fleet) (hf : f.supply = numbered) (id : String) (c : Char)
      (hc : c ∈ id.toList) (hdigit : c.isDigit = false) :
      (Operation.reattach none (remnant id)).Known f := by
    intro n _
    rw [hf]
    exact ne_numbered hc hdigit n
  have hone := Served.start.does (hknown (empty (openRules none) 1 numbered) rfl "a" 'a'
    (by decide) (by decide)) (ends_takenOver rfl)
  have htwo := hone.does (hknown _ rfl "b" 'b' (by decide) (by decide))
    (ends_takenOver (by decide +kernel))
  exact ⟨_, htwo⟩

/-- So bob gets no third one, and the launcher is not asked. -/
theorem refused_of_crowded : ∃ log, Served (empty (openRules none) 1 numbered) log crowded ∧
    crowded.ledger.active "bob" = 2 ∧
    (∃ calls g x, (create .python (.forUser "bob")).Ends Passes crowded calls g x) ∧
    ∀ calls g x, (create .python (.forUser "bob")).Ends Passes crowded calls g x →
      calls = [] ∧ x = .error (.quotaExceeded (.userFull "bob" 1)) ∧ crowded.Unmoved g := by
  obtain ⟨log, hserved⟩ := served_crowded
  obtain ⟨-, houtcome, hends⟩ :=
    outcome_of_served numbered_injective hserved .python (.forUser "bob")
  have hactive : crowded.ledger.active "bob" = 2 := by decide +kernel
  have huser : crowded.userOf (.forUser "bob") = "bob" := by decide +kernel
  have hfull : ¬crowded.LetsPass (.forUser "bob") := by
    intro h
    have hslot := h.slot
    rw [huser, hactive] at hslot
    exact absurd hslot (by decide)
  refine ⟨log, hserved, hactive, ?ends, ?refused⟩
  case ends =>
    obtain ⟨calls, g, x, h, -⟩ := hends (fun _ _ _ => ((), some (.ok ())))
      (fun _ _ limit => Reply.possible_some limit _) ()
    exact ⟨calls, g, x, h⟩
  case refused =>
    intro calls g x h
    cases houtcome h with
    | unauthorized hdenied _ =>
      obtain hdenied | ⟨hallowed, -⟩ := hdenied
      · exact absurd hdenied (by decide)
      · exact absurd rfl hallowed
    | gatewayFull _ hmax _ _ => cases hmax
    | userFull _ _ _ _ hg => exact ⟨rfl, by rw [huser]; rfl, hg⟩
    | unreserved hpasses _ _ => exact absurd hpasses hfull
    | failed hpasses _ _ _ => exact absurd hpasses hfull
    | launched hpasses _ _ _ => exact absurd hpasses hfull

end Fleet

end KernelGate
