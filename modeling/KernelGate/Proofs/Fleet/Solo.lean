import KernelGate.Proofs.Activity.Outcome
import KernelGate.Proofs.Fleet.Effects

/-!
# Operations of a fleet one at a time

What comes of a launch, a takeover or a shutdown that nothing else comes between, whatever the
launcher answers. Time goes on while it does.

Main statements: `created_of_ends`, `reattached_of_ends` and `ended_of_ends` say all that the three
operations can do. A fleet that is `Covered` counts a slot for each of its kernels, so that taking a
kernel away and putting it back leaves no trace.
-/

namespace KernelGate

namespace Fleet

open Activity

variable {f g : Fleet} {calls : Calls}

/-- Time goes on. -/
def Passes (f g : Fleet) : Prop := ∃ millis, g = f.later millis

/-- Counters, figures and the time aside, the fleet is the same. -/
structure SameApart (f g : Fleet) : Prop where
  rules : g.rules = f.rules
  supply : g.supply = f.supply
  kernels : g.kernels = f.kernels
  ledger : g.ledger = f.ledger

/-! ## A slot for each kernel

For operations one at a time it is enough that there are slots for all kernels; there may be more.
What takes a kernel away needs a slot to give back, and what puts it back takes the same one again.
-/

/-- Kernels are filed under their ids, and there are slots for all of them. -/
structure Covered (f : Fleet) : Prop where
  keyed : f.Keyed
  tidy : f.ledger.Tidy
  covered : ∀ user, f.tracked (ownedBy user) ≤ f.ledger.active user

/-- A fleet without kernels needs no slots. -/
theorem covered_empty (rules : FleetRules) (limit : Int) (supply : Supply) :
    (empty rules limit supply).Covered where
  keyed := keyed_empty rules limit supply
  tidy := Ledger.tidy_empty limit
  covered := by
    intro user
    exact Nat.zero_le _

theorem Covered.congr (h : f.Covered) (hk : g.kernels = f.kernels) (hl : g.ledger = f.ledger) :
    g.Covered where
  keyed := h.keyed.congr hk
  tidy := by
    rw [hl]
    exact h.tidy
  covered := by
    intro user
    rw [tracked_congr hk, hl]
    exact h.covered user

/-- One kernel more, whether or not its id was in use, and one slot more. -/
theorem Covered.insert (h : f.Covered) {k : Tracked}
    (hk : g.kernels = f.kernels.insert k.handle.id k)
    (hl : g.ledger = f.ledger.restore k.handle.user) : g.Covered where
  keyed := h.keyed.insert hk
  tidy := by
    rw [hl]
    exact h.tidy.restore _
  covered := by
    intro user
    rw [hl]
    exact fits_of_insert 0 hk (h.covered user)

/-- A kernel goes with the slot of its user, and the others keep theirs. -/
theorem Covered.erase (h : f.Covered) {id : String} {k : Tracked}
    (hget : f.kernels.get? id = some k) (hk : g.kernels = f.kernels.erase id)
    (hl : g.ledger = f.ledger.release k.handle.user) : g.Covered where
  keyed := h.keyed.erase hk
  tidy := by
    rw [hl]
    exact h.tidy.release _
  covered := by
    intro user
    rw [hl]
    exact fits_of_erase 0 hk hget (h.covered user)

theorem Covered.touch (h : f.Covered) (id : String) : (f.touch id).Covered where
  keyed := h.keyed.touch id
  tidy := by
    rw [ledger_touch]
    exact h.tidy
  covered := by
    intro user
    rw [tracked_touch, ledger_touch]
    exact h.covered user

/-- Whoever has a kernel has a slot to give back. -/
theorem Covered.active_pos (h : f.Covered) {id : String} {k : Tracked}
    (hget : f.kernels.get? id = some k) : 0 < f.ledger.active k.handle.user := by
  have hless := tracked_of_erase (g := { f with kernels := f.kernels.erase id }) rfl hget
    (ownedBy k.handle.user)
  have howned : ownedBy k.handle.user k.handle = true := decide_eq_true rfl
  rw [if_pos howned] at hless
  have hle := h.covered k.handle.user
  omega

/-! ## Launches

A launch is refused and changes nothing, or it brings one kernel and one slot. That a slot which was
taken for nothing is given back without a trace needs a ledger without entries of zero. -/

/-- What comes of a launch. -/
inductive Created (f : Fleet) : Fleet → Result KernelHandle → Prop where
  | refused {g : Fleet} {e : Fault} : f.SameApart g → Created f g (.error e)
  | launched {g : Fleet} {k : Tracked} :
      g.kernels = f.kernels.insert k.handle.id k →
      g.ledger = f.ledger.restore k.handle.user → Created f g (.ok k.handle)

theorem Created.covered {x : Result KernelHandle} (h : Created f g x) (hf : f.Covered) :
    g.Covered := by
  cases h with
  | refused hsame => exact hf.congr hsame.kernels hsame.ledger
  | launched hkernels hledger => exact hf.insert hkernels hledger

/-- A launch that fails after it took a slot leaves the ledger it found. -/
theorem created_of_ends {spec : KernelSpec} {p : LaunchParams} {x : Result KernelHandle}
    (htidy : f.ledger.Tidy) (h : (create spec p).Ends Passes f calls g x) : Created f g x := by
  obtain ⟨f₁, admitted, _, _, h₁, h₂, -⟩ := ends_bind_iff.1 h
  obtain ⟨-, hadmit⟩ := ends_atOnce_iff.1 h₁
  cases admitted with
  | error e =>
    obtain ⟨-, rfl, rfl⟩ := ends_done_iff.1 h₂
    obtain ⟨_, _, rfl⟩ := admitLaunch_error htidy hadmit
    exact .refused ⟨rfl, rfl, rfl, rfl⟩
  | ok r =>
    obtain ⟨_, -, -, -, -, hprepare⟩ := admitLaunch_ok hadmit
    cases hprepare
    obtain ⟨f₂, answer, _, _, h₃, h₄, -⟩ := ends_bind_iff.1 h₂
    obtain ⟨⟨millis, rfl⟩, -⟩ := ends_await_iff.1 h₃
    obtain ⟨-, hsettle⟩ := ends_atOnce_iff.1 h₄
    cases answer with
    | error e =>
      cases hsettle
      -- The slot that the launch had taken is the one that it gives back.
      exact .refused ⟨rfl, rfl, rfl, Ledger.release_restore htidy _⟩
    | ok u =>
      cases hsettle
      exact .launched (k := ⟨_, _⟩) rfl rfl

/-! ## Takeovers

A takeover asks the launcher about a kernel unless it is tracked, and takes a slot for it if it is
found alive. -/

/-- What comes of a takeover. -/
inductive Reattached (f : Fleet) (h : KernelHandle) : Fleet → Result Unit → Prop where
  | lost {g : Fleet} {e : Fault} : f.SameApart g → Reattached f h g (.error e)
  | known : f.kernels.contains h.id = true → Reattached f h f (.ok ())
  | found {g : Fleet} {now : Nat} :
      f.kernels.contains h.id = false → g.kernels = f.kernels.insert h.id ⟨h, now⟩ →
      g.ledger = f.ledger.restore h.user → Reattached f h g (.ok ())

theorem Reattached.covered {h : KernelHandle} {x : Result Unit} (hx : Reattached f h g x)
    (hf : f.Covered) : g.Covered := by
  cases hx with
  | lost hsame => exact hf.congr hsame.kernels hsame.ledger
  | known _ => exact hf
  | @found _ now _ hkernels hledger => exact hf.insert (k := ⟨h, now⟩) hkernels hledger

/-- What a takeover comes to is up to the launcher, unless the kernel is tracked already. -/
theorem reattached_of_ends {limit : Option Nat} {h : KernelHandle} {x : Result Unit}
    (hends : (reattach limit h).Ends Passes f calls g x) : Reattached f h g x := by
  have h₂ := ends_look_bind_iff.1 hends
  split at h₂
  · next hknown =>
    obtain ⟨-, rfl, rfl⟩ := ends_done_iff.1 h₂
    exact .known hknown
  · next hnew =>
    obtain ⟨_, reply, _, ⟨millis, rfl⟩, -, -, h₃⟩ := ends_call_iff.1 h₂
    rcases reply with _ | e | _
    · obtain ⟨-, rfl, rfl⟩ := ends_done_iff.1 h₃
      exact .lost ⟨rfl, rfl, rfl, rfl⟩
    · obtain ⟨-, rfl, rfl⟩ := ends_done_iff.1 h₃
      exact .lost ⟨rfl, rfl, rfl, rfl⟩
    · have h₄ := ends_step_iff.1 h₃
      obtain ⟨-, rfl, rfl⟩ := ends_done_iff.1 h₄
      exact .found (Bool.eq_false_iff.2 hnew) rfl rfl

/-! ## Shutdowns

A shutdown takes the kernel and its slot away before the launcher is asked. If the kernel cannot be
ended, both are put back, and nobody can tell from the fleet. -/

/-- What comes of a shutdown. -/
inductive Ended (f : Fleet) (id : String) : Fleet → Result KernelHandle → Prop where
  | kept {g : Fleet} {e : Fault} : f.SameApart g → Ended f id g (.error e)
  | ended {g : Fleet} {k : Tracked} :
      f.kernels.get? id = some k → g.kernels = f.kernels.erase id →
      g.ledger = f.ledger.release k.handle.user → Ended f id g (.ok k.handle)

theorem Ended.covered {id : String} {x : Result KernelHandle} (h : Ended f id g x)
    (hf : f.Covered) : g.Covered := by
  cases h with
  | kept hsame => exact hf.congr hsame.kernels hsame.ledger
  | ended hget hkernels hledger => exact hf.erase hget hkernels hledger

/-- A slot that is given back and restored leaves the ledger it found, since the user had one to
give. -/
theorem ended_of_ends {id : String} {x : Result KernelHandle} (hf : f.Covered)
    (h : (shutdown id).Ends Passes f calls g x) : Ended f id g x := by
  obtain ⟨f₁, begun, _, _, h₁, h₂, -⟩ := ends_bind_iff.1 h
  obtain ⟨-, hbegin⟩ := ends_atOnce_iff.1 h₁
  cases hget : f.kernels.get? id with
  | none =>
    rw [beginShutdown_of_none hget] at hbegin
    cases hbegin
    obtain ⟨-, rfl, rfl⟩ := ends_done_iff.1 h₂
    exact .kept ⟨rfl, rfl, rfl, rfl⟩
  | some k =>
    rw [beginShutdown_of_some hget] at hbegin
    cases hbegin
    obtain ⟨f₂, answer, _, _, h₃, h₄, -⟩ := ends_bind_iff.1 h₂
    obtain ⟨⟨millis, rfl⟩, -⟩ := ends_await_iff.1 h₃
    obtain ⟨-, hsettle⟩ := ends_atOnce_iff.1 h₄
    cases answer with
    | ok u =>
      cases hsettle
      exact .ended hget rfl rfl
    | error e =>
      -- The kernel is put back under its own id, and there was a slot to give back.
      have hid : k.handle.id = id := hf.keyed id k hget
      have hkernels : (f.kernels.erase id).insert k.handle.id k = f.kernels := by
        rw [hid]
        exact Dict.insert_erase hget
      have hledger := Ledger.restore_release (hf.active_pos hget)
      cases hsettle
      exact .kept ⟨rfl, rfl, hkernels, hledger⟩

theorem Ended.kernels_of_ok {id : String} {k : KernelHandle} (h : f.Ended id g (.ok k)) :
    g.kernels = f.kernels.erase id := by
  cases h with
  | ended _ hkernels _ => exact hkernels

/-- To end a kernel that is not there changes nothing. -/
theorem eq_of_shutdown_of_none {id : String} {x : Result KernelHandle}
    (hnone : f.kernels.get? id = none) (h : (shutdown id).Ends Passes f calls g x) : g = f := by
  obtain ⟨f₁, begun, _, _, h₁, h₂, -⟩ := ends_bind_iff.1 h
  obtain ⟨-, hbegin⟩ := ends_atOnce_iff.1 h₁
  rw [beginShutdown_of_none hnone] at hbegin
  cases hbegin
  exact (ends_done_iff.1 h₂).2.1

end Fleet

end KernelGate
